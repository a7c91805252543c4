import ChainWire.ItemType
import ChainWire.Message.Wire
import ChainWire.Writer

/-!
# Writers of chain data and of messages

Every record writes its fields in the order in which they travel, each into the
buffer of the record.  An absent base fee takes no place there.
-/

namespace ChainWire

namespace Writer

/-!
## Chain data
-/

def blockRef : Writer BlockRef
  | .hash h => octets h
  | .number n => uint n

def recipient : Writer (Option Address)
  | none => bytes []
  | some a => octets a

def legacyTransaction : Writer LegacyTransaction := fun t =>
  .enclosed [uint t.nonce, uint t.gasPrice, uint t.gas, recipient t.recipient, uint t.value,
    bytes t.data, uint t.v, uint t.r, uint t.s]

def transaction : Writer Transaction
  | .legacy t => legacyTransaction t
  | .typed type payload => .envelope type payload

def log : Writer Log := fun l =>
  .enclosed [octets l.address, list octets l.topics, bytes l.data]

def receiptStatus : Writer ReceiptStatus
  | .failed => bytes []
  | .success => bytes [1]
  | .postState root => octets root

def receiptRecord : Writer Receipt := fun r =>
  .enclosed [receiptStatus r.status, uint r.cumulativeGasUsed, octets r.bloom, list log r.logs]

/-- Receipts; the record inside an envelope is written by itself first. -/
def receipt : Writer Receipt := fun r out =>
  if r.type = 0 then receiptRecord r out
  else
    match receiptRecord r [] with
    | .ok inner => Push.envelope r.type inner out
    | .fail e _ => .fail e out

def blockHeader : Writer BlockHeader := fun h =>
  .enclosed ([octets h.parentHash, octets h.uncleHash, octets h.coinbase, octets h.stateRoot,
    octets h.transactionsRoot, octets h.receiptsRoot, octets h.logsBloom, uint h.difficulty,
    uint h.number, uint h.gasLimit, uint h.gasUsed, uint h.timestamp, bytes h.extraData,
    octets h.mixHash, octets h.nonce] ++ h.baseFee.toList.map uint)

def blockBody : Writer BlockBody := fun b =>
  .enclosed [list transaction b.transactions, list blockHeader b.uncles]

def block : Writer Block := fun b =>
  .enclosed [blockHeader b.header, list transaction b.transactions, list blockHeader b.uncles]

def voteData : Writer VoteData := fun d =>
  .enclosed [uint d.sourceNumber, octets d.sourceHash, uint d.targetNumber, octets d.targetHash]

def vote : Writer Vote := fun v =>
  .enclosed [octets v.address, octets v.signature, voteData v.data]

/-!
## Bodies
-/

def forkId : Writer ForkId := fun f => .enclosed [octets f.hash, uint f.next]

def status : Writer Status := fun s =>
  .enclosed [uint s.protocolVersion, uint s.networkId, uint s.totalDifficulty, octets s.head,
    octets s.genesis, forkId s.forkId]

def blockAnnouncement : Writer BlockAnnouncement := fun a =>
  .enclosed [octets a.hash, uint a.number]

def headerQuery : Writer HeaderQuery := fun q =>
  .enclosed [blockRef q.origin, uint q.amount, uint q.skip, bool q.reverse]

def blockPropagation : Writer BlockPropagation := fun p =>
  .enclosed [block p.block, uint p.totalDifficulty]

def voteBatch : Writer VoteBatch := fun b => .enclosed [list vote b.votes]

end Writer

def Kind.writer : (k : Kind) -> Writer k.Body
  | status => .status
  | newBlockHashes => .list .blockAnnouncement
  | transactions => .list .transaction
  | getBlockHeaders => .headerQuery
  | blockHeaders => .list .blockHeader
  | getBlockBodies => .list .octets
  | blockBodies => .list .blockBody
  | blockBodiesRaw => .list .raw
  | newBlock => .blockPropagation
  | newPooledTransactionHashes => .list .octets
  | getPooledTransactions => .list .octets
  | pooledTransactions => .list .transaction
  | pooledTransactionsRaw => .list .raw
  | getNodeData => .list .octets
  | nodeData => .list .bytes
  | getReceipts => .list .octets
  | receipts => .list (.list .receipt)
  | receiptsRaw => .list .raw
  | votes => .voteBatch

def Message.write : Writer Message := fun m => m.kind.writer m.body

def Framing.write (f : Framing) : Writer Packet := fun p out =>
  match f, p.requestId with
  | bare, none => p.message.write out
  | bare, some _ => .fail (.unexpectedRequestId p.kind) out
  | withId, none => .fail (.missingRequestId p.kind) out
  | withId, some id => Push.enclosed [Writer.uint id, p.message.write] out

def ItemType.writer : (t : ItemType) -> Writer t.Carrier
  | uint _ => .uint
  | bool => .bool
  | bytes => .bytes
  | octets _ => .octets
  | value => .value
  | raw => .raw
  | list items => .list items.writer
  | blockRef => .blockRef
  | legacyTransaction => .legacyTransaction
  | transaction => .transaction
  | log => .log
  | receiptStatus => .receiptStatus
  | receipt => .receipt
  | blockHeader => .blockHeader
  | blockBody => .blockBody
  | block => .block
  | voteData => .voteData
  | vote => .vote
  | forkId => .forkId
  | blockAnnouncement => .blockAnnouncement
  | body kind => kind.writer

end ChainWire
