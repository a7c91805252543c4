import ChainWire.Chain.Envelope
import ChainWire.Codec.Record

/-!
# Receipts

The outcome of a transaction.  A receipt of type zero travels as a plain
record, any other as a typed envelope around that record.
-/

namespace ChainWire

structure Log where
  address : Address
  topics : List Hash
  data : Bytes
deriving DecidableEq, Inhabited

/-- How a transaction ended.  Old receipts give a state root instead of a flag. -/
inductive ReceiptStatus where
  | failed
  | success
  | postState (root : Hash)
deriving DecidableEq, Inhabited

structure Receipt where
  type : UInt8
  status : ReceiptStatus
  cumulativeGasUsed : Uint 8
  bloom : Bloom
  logs : List Log
deriving DecidableEq, Inhabited

namespace Codec

def log : Codec Log :=
  (record "log" (.cons (octets 20) <| .cons (list (octets 32)) <| .one bytes)).through
    (fun l => (l.address, l.topics, l.data))
    (fun (address, topics, data) => { address, topics, data })

/-- The length of the byte string tells the three forms of a status apart. -/
def receiptStatus : Codec ReceiptStatus where
  encode
    | .failed => .ok (Item.ofString [])
    | .success => .ok (Item.ofString [1])
    | .postState root => .ok root.encode
  decode b :=
    (Item.string b).andThen fun data rest =>
      if data.isEmpty then .ok .failed rest
      else if data = [1] then .ok .success rest
      else if h : data.length = 32 then .ok (.postState ⟨data, h⟩) rest
      else .fail (.malformed .invalidReceiptStatus) rest

def receiptRecord (type : UInt8) : Codec Receipt :=
  (record "receipt"
    (.cons receiptStatus <| .cons (uint 8) <| .cons (octets 256) <| .one (list log))).through
    (fun r => (r.status, r.cumulativeGasUsed, r.bloom, r.logs))
    (fun (status, cumulativeGasUsed, bloom, logs) =>
      { type, status, cumulativeGasUsed, bloom, logs })

/-- A list is a receipt of type zero, a byte string a receipt of the type it names. -/
def receipt : Codec Receipt where
  encode r := do
    let inner <- (receiptRecord r.type).encode r
    if r.type = 0 then return inner else TypedEnvelope.encode r.type inner
  decode b :=
    (Header.peek b).andThen fun h b =>
      if h.isList then (receiptRecord 0).decode b
      else
        (TypedEnvelope.decode b).andThen fun (type, payload) rest =>
          match (receiptRecord type).decode.exact payload with
          | .ok r => .ok r rest
          | .error e => .fail e rest

end Codec
end ChainWire
