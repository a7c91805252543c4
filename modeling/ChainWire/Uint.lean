import ChainWire.Header

/-!
# Unsigned integers of a given width

An integer field travels as the shortest big-endian byte string for its value;
zero is the empty string.  Reading refuses leading zero bytes, and strings that
are longer than the type is wide.
-/

namespace ChainWire

structure Uint (width : Nat) where
  toNat : Nat
  isLt : toNat < BigEndian.bound width
deriving DecidableEq, Repr

namespace Uint

variable {width : Nat}

@[ext] theorem ext {a b : Uint width} (h : a.toNat = b.toNat) : a = b := by
  cases a
  cases b
  cases h
  rfl

def zero : Uint width := ⟨0, BigEndian.bound_pos width⟩

instance : Inhabited (Uint width) := ⟨zero⟩

def ofNat? (n : Nat) : Option (Uint width) :=
  if h : n < BigEndian.bound width then some ⟨n, h⟩ else none

/-- The number that a byte string stands for, leading zeros allowed. -/
def ofBytes (b : Bytes) : Except EncodeFault (Uint width) :=
  if h : b.length <= width then .ok ⟨BigEndian.decode b, BigEndian.decode_lt_of_length_le h⟩
  else .error (.widthExceeded width b.length)

def trimmed (n : Uint width) : Bytes := BigEndian.encode n.toNat

def toBytes (n : Uint width) : Bytes := Bytes.padLeft width n.trimmed

def narrow? (n : Uint width) (narrower : Nat) : Option (Uint narrower) := ofNat? n.toNat

/-- Decimal if the number fits into eight bytes, else hexadecimal. -/
def display (n : Uint width) : String :=
  if n.toNat < BigEndian.bound 8 then toString n.toNat else "0x" ++ Hex.encode n.trimmed

instance : Ord (Uint width) := ⟨fun a b => compare a.toNat b.toNat⟩

def encode (n : Uint width) : Bytes := Item.ofString n.trimmed

/-- Read the shortest byte string of an integer of at most `width` bytes. -/
def decodeDigits (width : Nat) : Decoder { digits : Bytes // digits.length <= width } :=
  fun b =>
    (Item.string b).andThen fun digits rest =>
      if digits.head? == some 0 then .fail (.nonCanonical .integerLeadingZero) rest
      else if h : digits.length <= width then .ok ⟨digits, h⟩ rest
      else .fail (.overflow width digits.length) rest

def decode : Decoder (Uint width) :=
  (decodeDigits width).map fun digits =>
    ⟨BigEndian.decode digits.val, BigEndian.decode_lt_of_length_le digits.property⟩

end Uint
end ChainWire
