import ChainWire.Codec

/-!
# Raw items

An item kept in the form in which it was received.  It is passed on byte for
byte, whether or not anyone could read it, and it can be read later.
-/

namespace ChainWire

structure RawItem where
  bytes : Bytes
deriving DecidableEq, Repr, Inhabited

namespace RawItem

/-- Whether the bytes are exactly one item as far as its header tells. -/
def WellFormed (r : RawItem) : Prop :=
  Item.span r.bytes = .ok r.bytes.length

def ofBytes (b : Bytes) : Except DecodeFault RawItem := do
  let n <- Item.span b
  if n = b.length then return ⟨b⟩
  else throw (.trailingData (b.length - n))

def ofTyped {α : Type} (c : Codec α) (x : α) : Except EncodeFault RawItem :=
  (c.encode x).map RawItem.mk

def read {α : Type} (d : Decoder α) (r : RawItem) : Except DecodeFault α :=
  d.exact r.bytes

def decode : Decoder RawItem := fun b =>
  match Item.span b with
  | .ok n => .ok ⟨b.take n⟩ (b.drop n)
  | .error e => .fail e b

end RawItem

def Codec.raw : Codec RawItem where
  encode r := .ok r.bytes
  decode := RawItem.decode

end ChainWire
