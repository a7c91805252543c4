import ChainWire.Bytes

/-!
# Hexadecimal text

Byte strings and small numbers as lower-case hexadecimal text.
-/

namespace ChainWire
namespace Hex

def digit (n : Nat) : Char :=
  if n < 10 then Char.ofNat (48 + n) else Char.ofNat (87 + n)

def encode (b : Bytes) : String :=
  String.ofList (b.flatMap fun x => [digit (x.toNat / 16), digit (x.toNat % 16)])

def value? (c : Char) : Option Nat :=
  if c.isDigit then some (c.toNat - 48)
  else if 'a' <= c && c <= 'f' then some (c.toNat - 87)
  else if 'A' <= c && c <= 'F' then some (c.toNat - 55)
  else none

/-- The bytes that pairs of digits stand for; a digit without a partner stands for nothing. -/
def decode? : List Char -> Option Bytes
  | [] => some []
  | [_] => none
  | a :: b :: rest => do
      let high <- value? a
      let low <- value? b
      let tail <- decode? rest
      return UInt8.ofNat (16 * high + low) :: tail

/-- A number with the mark `0x` and at least two digits. -/
def ofNat (n : Nat) : String :=
  let digits := Nat.toDigits 16 n
  "0x" ++ String.ofList (List.replicate (2 - digits.length) '0' ++ digits)

end Hex
end ChainWire
