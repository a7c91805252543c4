import ChainWire.Header

/-!
# Byte strings of a fixed width

Hashes, addresses and the like.  All bytes travel, zeros included.
-/

namespace ChainWire

structure Octets (width : Nat) where
  bytes : Bytes
  length_eq : bytes.length = width
deriving DecidableEq, Repr

abbrev Hash := Octets 32

abbrev Address := Octets 20

abbrev Bloom := Octets 256

abbrev BlockNonce := Octets 8

/-- Checksums of the forks a chain has passed. -/
abbrev ForkHash := Octets 4

abbrev VoteKey := Octets 48

abbrev VoteSignature := Octets 96

namespace Octets

variable {width : Nat}

@[ext] theorem ext {a b : Octets width} (h : a.bytes = b.bytes) : a = b := by
  cases a
  cases b
  cases h
  rfl

def zero : Octets width := ⟨List.replicate width 0, List.length_replicate⟩

instance : Inhabited (Octets width) := ⟨zero⟩

def ofBytes (b : Bytes) : Except EncodeFault (Octets width) :=
  if h : b.length = width then .ok ⟨b, h⟩ else .error (.widthExceeded width b.length)

/-- These bytes, with zero bytes in front. -/
def ofPadded (b : Bytes) : Except EncodeFault (Octets width) :=
  if h : b.length <= width then .ok ⟨Bytes.padLeft width b, Bytes.length_padLeft h⟩
  else .error (.widthExceeded width b.length)

def isZero (x : Octets width) : Bool := x.bytes.isZero

def display (x : Octets width) : String := "0x" ++ Hex.encode x.bytes

instance : Ord (Octets width) := ⟨fun a b => compare a.bytes b.bytes⟩

def encode (x : Octets width) : Bytes := Item.ofString x.bytes

def decode : Decoder (Octets width) := fun b =>
  (Item.string b).andThen fun data rest =>
    if h : data.length = width then .ok ⟨data, h⟩ rest
    else .fail (.unexpectedLength width data.length) rest

end Octets
end ChainWire
