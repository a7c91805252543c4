/-!
# Blank characters

The characters that count as white space in Unicode, and trimming by them.
-/

namespace ChainWire
namespace Blank

/-- Ranges of code points with the Unicode property `White_Space`, ends included. -/
def ranges : List (Nat × Nat) :=
  [(0x9, 0xD), (0x20, 0x20), (0x85, 0x85), (0xA0, 0xA0), (0x1680, 0x1680),
    (0x2000, 0x200A), (0x2028, 0x2029), (0x202F, 0x202F), (0x205F, 0x205F),
    (0x3000, 0x3000)]

def isBlank (c : Char) : Bool :=
  ranges.any fun r => r.1 <= c.toNat && c.toNat <= r.2

def trim (s : List Char) : List Char :=
  (((s.dropWhile isBlank).reverse).dropWhile isBlank).reverse

end Blank
end ChainWire
