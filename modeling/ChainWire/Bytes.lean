/-!
# Byte strings

A byte string is a list of bytes.  This module holds the two operations that
readers of untrusted input need: asking for a number of bytes without walking
the whole input, and widening a string on the left with zero bytes.
-/

namespace ChainWire

abbrev Bytes := List UInt8

namespace Bytes

/-- Whether at least `n` bytes are present.  Looks at no more than `n` of them. -/
def hasAtLeast (b : Bytes) (n : Nat) : Bool :=
  (b.take n).length == n

def padLeft (width : Nat) (b : Bytes) : Bytes :=
  List.replicate (width - b.length) 0 ++ b

def isZero (b : Bytes) : Bool :=
  b.all (fun x => x == 0)

@[simp] theorem hasAtLeast_iff (b : Bytes) (n : Nat) :
    b.hasAtLeast n = true <-> n <= b.length := by
  simp only [hasAtLeast, List.length_take, beq_iff_eq]
  omega

theorem length_padLeft {width : Nat} {b : Bytes} (h : b.length <= width) :
    (padLeft width b).length = width := by
  simp only [padLeft, List.length_append, List.length_replicate]
  omega

end Bytes
end ChainWire
