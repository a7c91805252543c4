/-!
# Byte places

Places in a text counted in bytes of its encoding, and the parts of a text
between two such places.  A place inside a character bounds no part.
-/

namespace ChainWire
namespace BytePlace

def size : List Char -> Nat
  | [] => 0
  | c :: rest => c.utf8Size + size rest

/-- What stands before a byte place, if that is a place between characters. -/
def before? : Nat -> List Char -> Option (List Char)
  | 0, _ => some []
  | _ + 1, [] => none
  | n + 1, c :: rest =>
      if c.utf8Size <= n + 1 then (before? (n + 1 - c.utf8Size) rest).map fun s => c :: s
      else none

def from? : Nat -> List Char -> Option (List Char)
  | 0, s => some s
  | _ + 1, [] => none
  | n + 1, c :: rest =>
      if c.utf8Size <= n + 1 then from? (n + 1 - c.utf8Size) rest else none

def between? (start stop : Nat) (s : List Char) : Option (List Char) :=
  (from? start s).bind (before? (stop - start))

end BytePlace
end ChainWire
