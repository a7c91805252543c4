import ChainWire.Chain.Envelope
import ChainWire.Codec.Record

/-!
# Transactions

A legacy transaction is a record of nine fields.  Any other transaction is a
typed envelope, whose payload is not read here.
-/

namespace ChainWire

structure LegacyTransaction where
  nonce : Uint 8
  gasPrice : Uint 32
  gas : Uint 8
  /-- Absent when the transaction creates a contract. -/
  recipient : Option Address
  value : Uint 32
  data : Bytes
  v : Uint 32
  r : Uint 32
  s : Uint 32
deriving DecidableEq, Inhabited

namespace Codec

/-- A recipient is an address, or the empty byte string if there is none. -/
def recipient : Codec (Option Address) where
  encode
    | none => .ok (Item.ofString [])
    | some a => .ok a.encode
  decode b :=
    (Item.string b).andThen fun data rest =>
      if data.isEmpty then .ok none rest
      else if h : data.length = 20 then .ok (some ⟨data, h⟩) rest
      else .fail (.unexpectedLength 20 data.length) rest

def legacyTransaction : Codec LegacyTransaction :=
  (record "legacy transaction"
    (.cons (uint 8) <| .cons (uint 32) <| .cons (uint 8) <| .cons recipient <|
      .cons (uint 32) <| .cons bytes <| .cons (uint 32) <| .cons (uint 32) <|
      .one (uint 32))).through
    (fun t => (t.nonce, t.gasPrice, t.gas, t.recipient, t.value, t.data, t.v, t.r, t.s))
    (fun (nonce, gasPrice, gas, recipient, value, data, v, r, s) =>
      { nonce, gasPrice, gas, recipient, value, data, v, r, s })

end Codec

inductive Transaction where
  | legacy (transaction : LegacyTransaction)
  | typed (type : UInt8) (payload : Bytes)
deriving DecidableEq

instance : Inhabited Transaction := ⟨.legacy default⟩

/-- A list is a legacy transaction, a byte string a typed one. -/
def Codec.transaction : Codec Transaction where
  encode
    | .legacy t => legacyTransaction.encode t
    | .typed type payload => TypedEnvelope.encode type payload
  decode b :=
    (Header.peek b).andThen fun h b =>
      if h.isList then (legacyTransaction.decode b).map .legacy
      else (TypedEnvelope.decode b).map fun (type, payload) => .typed type payload

end ChainWire
