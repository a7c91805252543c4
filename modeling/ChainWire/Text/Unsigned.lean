/-!
# Unsigned numbers in text

Decimal text for a number below a bound.  A plus sign in front is allowed;
blanks and other marks are not.
-/

namespace ChainWire
namespace Unsigned

inductive Problem where
  | empty
  | invalidDigit
  | tooLarge
deriving DecidableEq, Repr

def Problem.message : Problem -> String
  | .empty => "cannot parse integer from empty string"
  | .invalidDigit => "invalid digit found in string"
  | .tooLarge => "number too large to fit in target type"

/--
Add digits to a number that must stay below `bound`.  The first character that
is wrong in either way decides.
-/
def addDigits (bound : Nat) : Nat -> List Char -> Except Problem Nat
  | acc, [] => .ok acc
  | acc, c :: rest =>
      if !c.isDigit then .error .invalidDigit
      else
        let next := acc * 10 + (c.toNat - 48)
        if next < bound then addDigits bound next rest else .error .tooLarge

def parse (bound : Nat) : List Char -> Except Problem Nat
  | [] => .error .empty
  | ['+'] => .error .invalidDigit
  | '+' :: digits => addDigits bound 0 digits
  | digits => addDigits bound 0 digits

def bound32 : Nat := Nat.pow 2 32

def bound64 : Nat := Nat.pow 2 64

end Unsigned
end ChainWire
