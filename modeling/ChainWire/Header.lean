import ChainWire.Bytes.BigEndian
import ChainWire.Read

/-!
# Item headers

Every item on the wire is a byte string or a list, announced by a header:

```text
00..7f                      one byte, which is the item itself
80+n  (n bytes)             byte string of n <= 55 bytes
b7+k  (k digits) (n bytes)  byte string of n > 55 bytes
c0+n  (n bytes)             list with a payload of n <= 55 bytes
f7+k  (k digits) (n bytes)  list with a payload of n > 55 bytes
```

The digits are the length as a big-endian number without leading zeros.
Reading refuses every header that is not the one that writing would have
chosen, and every length that exceeds the bytes at hand.
-/

namespace ChainWire

structure Header where
  isList : Bool
  payloadLength : Nat
deriving DecidableEq, Repr

namespace Header

def string (payloadLength : Nat) : Header := ⟨false, payloadLength⟩

def list (payloadLength : Nat) : Header := ⟨true, payloadLength⟩

/-- The longest payload whose length fits into the first byte. -/
def shortPayloadMax : Nat := 55

/-- The most digits that the length of a received item may have. -/
def maxLengthDigits : Nat := 4

/-- First byte of an empty byte string; lower bytes are items by themselves. -/
def stringBase : Nat := 0x80

def listBase : Nat := 0xC0

def base (h : Header) : Nat :=
  if h.isList then listBase else stringBase

def length (h : Header) : Nat :=
  if h.payloadLength <= shortPayloadMax then 1
  else 1 + (BigEndian.encode h.payloadLength).length

/-- The header as it is written.  A single byte below `0x80` has none. -/
def encode (h : Header) : Bytes :=
  if h.payloadLength <= shortPayloadMax then [UInt8.ofNat (h.base + h.payloadLength)]
  else
    let digits := BigEndian.encode h.payloadLength
    UInt8.ofNat (h.base + shortPayloadMax + digits.length) :: digits

def startsBare : Bytes -> Bool
  | [] => false
  | x :: _ => x.toNat < stringBase

def decodeLength (width : Nat) : Decoder Nat := fun b =>
  if maxLengthDigits < width then .fail (.malformed .lengthTooWide) b
  else if !b.hasAtLeast width then .fail (.truncated width b.length) b
  else if b.head? == some 0 then .fail (.nonCanonical .lengthLeadingZero) b
  else
    let n := BigEndian.decode (b.take width)
    let rest := b.drop width
    if n <= shortPayloadMax then .fail (.nonCanonical .longFormShortPayload) rest
    else .ok n rest

def present (h : Header) : Decoder Header := fun b =>
  if b.hasAtLeast h.payloadLength then .ok h b
  else .fail (.truncated h.payloadLength b.length) b

/--
Read a header.  A byte that is an item by itself is left in place and counts as
a byte string of one byte, so the payload always comes next.
-/
def decode : Decoder Header
  | [] => .fail (.truncated 1 0) []
  | x :: rest =>
      let first := x.toNat
      if first < stringBase then .ok (string 1) (x :: rest)
      else if first <= stringBase + shortPayloadMax then
        let n := first - stringBase
        if n == 1 && startsBare rest then .fail (.nonCanonical .singleBytePrefixed) rest
        else present (string n) rest
      else if first < listBase then
        (decodeLength (first - (stringBase + shortPayloadMax)) rest).andThen
          fun n => present (string n)
      else if first <= listBase + shortPayloadMax then present (list (first - listBase)) rest
      else
        (decodeLength (first - (listBase + shortPayloadMax)) rest).andThen
          fun n => present (list n)

def peek : Decoder Header := fun b =>
  match decode b with
  | .ok h _ => .ok h b
  | .fail e _ => .fail e b

end Header

/-! ## Items by their payload -/

namespace Item

def ofString (b : Bytes) : Bytes :=
  match b with
  | [x] => if x.toNat < Header.stringBase then [x] else (Header.string 1).encode ++ [x]
  | b => (Header.string b.length).encode ++ b

/-- A list as an item, from its payload: the items that it holds, one after another. -/
def ofPayload (payload : Bytes) : Bytes :=
  (Header.list payload.length).encode ++ payload

def take (n : Nat) : Decoder Bytes := fun b =>
  .ok (b.take n) (b.drop n)

def string : Decoder Bytes := fun b =>
  (Header.decode b).andThen fun h rest =>
    if h.isList then .fail .unexpectedList rest else take h.payloadLength rest

def payload : Decoder Bytes := fun b =>
  (Header.decode b).andThen fun h rest =>
    if h.isList then take h.payloadLength rest else .fail .unexpectedString rest

def span (b : Bytes) : Except DecodeFault Nat :=
  match Header.decode b with
  | .ok h _ => .ok (if Header.startsBare b then 1 else h.length + h.payloadLength)
  | .fail e _ => .error e

end Item
end ChainWire
