import ChainWire.Message.Wire

/-!
# The layout of typed items

The value that a typed item travels as, field by field in the order in which
the fields are declared.  Nothing here can fail and nothing here writes a
header; the value says all there is to say about the bytes.
-/

namespace ChainWire
namespace Layout

/-!
## Single fields
-/

/-- The shortest digits of the number, so none at all for zero. -/
def uint {width : Nat} (n : Uint width) : Value :=
  .bytes (BigEndian.encode n.toNat)

def bool (b : Bool) : Value :=
  .bytes (if b then [1] else [])

def octets {width : Nat} (x : Octets width) : Value :=
  .bytes x.bytes

def sequence {α : Type} (layout : α -> Value) (xs : List α) : Value :=
  .list (xs.map layout)

def recipient : Option Address -> Value
  | none => .bytes []
  | some a => octets a

def blockRef : BlockRef -> Value
  | .hash h => octets h
  | .number n => uint n

def receiptStatus : ReceiptStatus -> Value
  | .failed => .bytes []
  | .success => .bytes [1]
  | .postState root => octets root

/-!
## Chain data
-/

def legacyTransaction (t : LegacyTransaction) : Value :=
  .list [uint t.nonce, uint t.gasPrice, uint t.gas, recipient t.recipient, uint t.value,
    .bytes t.data, uint t.v, uint t.r, uint t.s]

def transaction : Transaction -> Value
  | .legacy t => legacyTransaction t
  | .typed type payload => .bytes (type :: payload)

def log (l : Log) : Value :=
  .list [octets l.address, sequence octets l.topics, .bytes l.data]

def receiptRecord (r : Receipt) : Value :=
  .list [receiptStatus r.status, uint r.cumulativeGasUsed, octets r.bloom, sequence log r.logs]

/-- Only a receipt of type zero is a list; any other is a byte string that holds one. -/
def receipt (r : Receipt) : Value :=
  if r.type = 0 then receiptRecord r else .bytes (r.type :: (receiptRecord r).encode)

/-- An absent base fee takes no place. -/
def blockHeader (h : BlockHeader) : Value :=
  .list ([octets h.parentHash, octets h.uncleHash, octets h.coinbase, octets h.stateRoot,
    octets h.transactionsRoot, octets h.receiptsRoot, octets h.logsBloom, uint h.difficulty,
    uint h.number, uint h.gasLimit, uint h.gasUsed, uint h.timestamp, .bytes h.extraData,
    octets h.mixHash, octets h.nonce] ++ h.baseFee.toList.map uint)

def blockBody (b : BlockBody) : Value :=
  .list [sequence transaction b.transactions, sequence blockHeader b.uncles]

def block (b : Block) : Value :=
  .list [blockHeader b.header, sequence transaction b.transactions,
    sequence blockHeader b.uncles]

def voteData (d : VoteData) : Value :=
  .list [uint d.sourceNumber, octets d.sourceHash, uint d.targetNumber, octets d.targetHash]

def vote (v : Vote) : Value :=
  .list [octets v.address, octets v.signature, voteData v.data]

/-!
## Bodies
-/

def forkId (f : ForkId) : Value :=
  .list [octets f.hash, uint f.next]

def status (s : Status) : Value :=
  .list [uint s.protocolVersion, uint s.networkId, uint s.totalDifficulty, octets s.head,
    octets s.genesis, forkId s.forkId]

def blockAnnouncement (a : BlockAnnouncement) : Value :=
  .list [octets a.hash, uint a.number]

def headerQuery (q : HeaderQuery) : Value :=
  .list [blockRef q.origin, uint q.amount, uint q.skip, bool q.reverse]

def blockPropagation (p : BlockPropagation) : Value :=
  .list [block p.block, uint p.totalDifficulty]

def voteBatch (b : VoteBatch) : Value :=
  .list [sequence vote b.votes]

def withId (id : RequestId) (body : Value) : Value :=
  .list [uint id, body]

end Layout

/-- The layout of a body.  A raw body is laid out by whoever wrote its items. -/
def Kind.layout? : (k : Kind) -> k.Body -> Option Value
  | status, s => some (Layout.status s)
  | newBlockHashes, xs => some (Layout.sequence Layout.blockAnnouncement xs)
  | transactions, xs => some (Layout.sequence Layout.transaction xs)
  | getBlockHeaders, q => some (Layout.headerQuery q)
  | blockHeaders, xs => some (Layout.sequence Layout.blockHeader xs)
  | getBlockBodies, xs => some (Layout.sequence Layout.octets xs)
  | blockBodies, xs => some (Layout.sequence Layout.blockBody xs)
  | newBlock, p => some (Layout.blockPropagation p)
  | newPooledTransactionHashes, xs => some (Layout.sequence Layout.octets xs)
  | getPooledTransactions, xs => some (Layout.sequence Layout.octets xs)
  | pooledTransactions, xs => some (Layout.sequence Layout.transaction xs)
  | getNodeData, xs => some (Layout.sequence Layout.octets xs)
  | nodeData, xs => some (Layout.sequence Value.bytes xs)
  | getReceipts, xs => some (Layout.sequence Layout.octets xs)
  | receipts, xs => some (Layout.sequence (Layout.sequence Layout.receipt) xs)
  | votes, b => some (Layout.voteBatch b)
  | blockBodiesRaw, _ => none
  | pooledTransactionsRaw, _ => none
  | receiptsRaw, _ => none

def Message.layout? (m : Message) : Option Value :=
  m.kind.layout? m.body

end ChainWire
