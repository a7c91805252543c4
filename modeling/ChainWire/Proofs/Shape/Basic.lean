import ChainWire.Message.Body
import Mathlib.Data.List.Forall2

/-!
# The shapes of typed items

A shape tells which untyped values stand for which item of a type.  Shapes are
about trees and not about bytes: no headers, no lengths of lists, no order of
reading.  The one place where bytes come in again is a receipt inside an
envelope, which is an item packed into a byte string.
-/

namespace ChainWire

/-- Which values stand for an item. -/
abbrev Shape (α : Type) := α -> Value -> Prop

namespace Shape

/-- As many values as there are fields, each of them fit for its field. -/
def Fields (fields : List (Value -> Prop)) (vs : List Value) : Prop :=
  List.Forall₂ (fun field v => field v) fields vs

def record (fields : List (Value -> Prop)) (v : Value) : Prop :=
  exists vs, v = .list vs ∧ Fields fields vs

def sequence {α : Type} (S : Shape α) : Shape (List α) :=
  fun xs v => exists vs, v = .list vs ∧ List.Forall₂ S xs vs

/-!
## Single fields
-/

/-- A byte string without a zero byte in front that is no wider than the type. -/
def uint {width : Nat} : Shape (Uint width) :=
  fun n v => exists digits, v = .bytes digits ∧ digits.head? ≠ some 0 ∧
    digits.length <= width ∧ n.toNat = BigEndian.decode digits

/-- The integer zero or the integer one. -/
def bool : Shape Bool :=
  fun b v => exists n : Uint 1, uint n v ∧ n.toNat = b.toNat

def octets {width : Nat} : Shape (Octets width) :=
  fun x v => v = .bytes x.bytes

def bytes : Shape Bytes :=
  fun b v => v = .bytes b

def recipient : Shape (Option Address)
  | none, v => v = .bytes []
  | some a, v => octets a v

def blockRef : Shape BlockRef
  | .hash h, v => octets h v
  | .number n, v => uint n v

def receiptStatus : Shape ReceiptStatus
  | .failed, v => v = .bytes []
  | .success, v => v = .bytes [1]
  | .postState root, v => octets root v

/-!
## Chain data
-/

def legacyTransaction : Shape LegacyTransaction :=
  fun t => record [uint t.nonce, uint t.gasPrice, uint t.gas, recipient t.recipient,
    uint t.value, bytes t.data, uint t.v, uint t.r, uint t.s]

/-- A list is a legacy transaction, and a byte string a typed one. -/
def transaction : Shape Transaction
  | .legacy t, v => legacyTransaction t v
  | .typed type payload, v => type.toNat < 0x80 ∧ v = .bytes (type :: payload)

def log : Shape Log :=
  fun l => record [octets l.address, sequence octets l.topics, bytes l.data]

def receiptRecord : Shape Receipt :=
  fun r => record [receiptStatus r.status, uint r.cumulativeGasUsed, octets r.bloom,
    sequence log r.logs]

/-- A list of type zero, or a type byte in front of a whole item that is such a list. -/
def receipt : Shape Receipt :=
  fun r v => (r.type = 0 ∧ receiptRecord r v) ∨
    (r.type.toNat < 0x80 ∧ exists payload u, v = .bytes (r.type :: payload) ∧
      Decoder.exact Value.decode payload = .ok u ∧ receiptRecord r u)

/-- Fifteen fields, or sixteen with a base fee. -/
def blockHeader : Shape BlockHeader :=
  fun h => record ([octets h.parentHash, octets h.uncleHash, octets h.coinbase,
    octets h.stateRoot, octets h.transactionsRoot, octets h.receiptsRoot, octets h.logsBloom,
    uint h.difficulty, uint h.number, uint h.gasLimit, uint h.gasUsed, uint h.timestamp,
    bytes h.extraData, octets h.mixHash, octets h.nonce] ++ h.baseFee.toList.map uint)

def blockBody : Shape BlockBody :=
  fun b => record [sequence transaction b.transactions, sequence blockHeader b.uncles]

def block : Shape Block :=
  fun b => record [blockHeader b.header, sequence transaction b.transactions,
    sequence blockHeader b.uncles]

def voteData : Shape VoteData :=
  fun d => record [uint d.sourceNumber, octets d.sourceHash, uint d.targetNumber,
    octets d.targetHash]

def vote : Shape Vote :=
  fun v => record [octets v.address, octets v.signature, voteData v.data]

/-!
## Bodies
-/

def forkId : Shape ForkId :=
  fun f => record [octets f.hash, uint f.next]

def status : Shape Status :=
  fun s => record [uint s.protocolVersion, uint s.networkId, uint s.totalDifficulty,
    octets s.head, octets s.genesis, forkId s.forkId]

def blockAnnouncement : Shape BlockAnnouncement :=
  fun a => record [octets a.hash, uint a.number]

def headerQuery : Shape HeaderQuery :=
  fun q => record [blockRef q.origin, uint q.amount, uint q.skip, bool q.reverse]

def blockPropagation : Shape BlockPropagation :=
  fun p => record [block p.block, uint p.totalDifficulty]

def voteBatch : Shape VoteBatch :=
  fun b => record [sequence vote b.votes]

end Shape

/-- The shape of a body.  A raw body keeps its items unread, so it has none. -/
def Kind.shape : (k : Kind) -> Shape k.Body
  | status => Shape.status
  | newBlockHashes => Shape.sequence Shape.blockAnnouncement
  | transactions => Shape.sequence Shape.transaction
  | getBlockHeaders => Shape.headerQuery
  | blockHeaders => Shape.sequence Shape.blockHeader
  | getBlockBodies => Shape.sequence Shape.octets
  | blockBodies => Shape.sequence Shape.blockBody
  | newBlock => Shape.blockPropagation
  | newPooledTransactionHashes => Shape.sequence Shape.octets
  | getPooledTransactions => Shape.sequence Shape.octets
  | pooledTransactions => Shape.sequence Shape.transaction
  | getNodeData => Shape.sequence Shape.octets
  | nodeData => Shape.sequence Shape.bytes
  | getReceipts => Shape.sequence Shape.octets
  | receipts => Shape.sequence (Shape.sequence Shape.receipt)
  | votes => Shape.voteBatch
  | blockBodiesRaw | pooledTransactionsRaw | receiptsRaw => fun _ _ => False

def Message.HasShape (m : Message) (v : Value) : Prop :=
  m.kind.shape m.body v

end ChainWire
