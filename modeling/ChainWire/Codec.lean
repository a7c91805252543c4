import ChainWire.Octets
import ChainWire.Uint
import ChainWire.Value

/-!
# Codecs

A codec pairs the way a type is written with the way it is read.  Writing can
fail, since some types hold values that have no encoding; reading takes one
item off the input.

The codecs here are those of integers, booleans, byte strings, values and
lists.  Those of records are put together from fields in `Codec.Record`.
-/

namespace ChainWire

structure Codec (α : Type) where
  encode : α -> Except EncodeFault Bytes
  decode : Decoder α

namespace Codec

/-- Write and read a type through another one. -/
def through {α β : Type} (c : Codec α) (view : β -> α) (build : α -> β) : Codec β where
  encode x := c.encode (view x)
  decode := c.decode.map build

def uint (width : Nat) : Codec (Uint width) where
  encode n := .ok n.encode
  decode := Uint.decode

def octets (width : Nat) : Codec (Octets width) where
  encode x := .ok x.encode
  decode := Octets.decode

def bytes : Codec Bytes where
  encode b := .ok (Item.ofString b)
  decode := Item.string

def value : Codec Value where
  encode v := .ok v.encode
  decode := Value.decode

/-- Booleans travel as the integers zero and one. -/
def bool : Codec Bool where
  encode b := .ok (Item.ofString (if b then [1] else []))
  decode b :=
    (Uint.decode b : Read (Uint 1)).andThen fun n rest =>
      if n.toNat = 0 then .ok false rest
      else if n.toNat = 1 then .ok true rest
      else .fail (.malformed .invalidBool) rest

def encodeAll {α : Type} (c : Codec α) (xs : List α) : Except EncodeFault Bytes :=
  (xs.mapM c.encode).map List.flatten

def list {α : Type} (c : Codec α) : Codec (List α) where
  encode xs := (c.encodeAll xs).map Item.ofPayload
  decode b :=
    (Item.payload b).andThen fun payload rest =>
      match Decoder.items c.decode payload with
      | .ok xs _ => .ok xs rest
      | .fail e _ => .fail e rest

end Codec
end ChainWire
