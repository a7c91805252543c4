import ChainWire.Codec

/-!
# Typed envelopes

Newer kinds of transactions and receipts travel inside a byte string: a type
byte below `0x80` and a payload that depends on it.  Older kinds are lists, so
the header of an item tells the two apart.
-/

namespace ChainWire
namespace TypedEnvelope

/-- Type bytes that are too large. -/
def isReserved (type : UInt8) : Bool :=
  Header.stringBase <= type.toNat

def encode (type : UInt8) (payload : Bytes) : Except EncodeFault Bytes :=
  if isReserved type then .error (.invalidEnvelopeType type)
  else .ok (Item.ofString (type :: payload))

def decode : Decoder (UInt8 × Bytes) := fun b =>
  (Item.string b).andThen fun data rest =>
    match data with
    | [] => .fail (.malformed .emptyTypedEnvelope) rest
    | type :: payload =>
        if isReserved type then .fail (.malformed .invalidEnvelopeType) rest
        else .ok (type, payload) rest

end TypedEnvelope
end ChainWire
