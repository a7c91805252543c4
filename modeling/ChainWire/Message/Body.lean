import ChainWire.Chain.Block
import ChainWire.Chain.BlockRef
import ChainWire.Chain.Receipt
import ChainWire.Chain.Vote
import ChainWire.RawItem

/-!
# Message bodies

What the messages of each kind contain.  Most bodies are lists of items; six
are records of their own.  `Kind.Body` gives the type of the body for each
kind, and `Kind.codec` the way it travels.
-/

namespace ChainWire

/-- The state of a chain after its last fork, and the next fork if one is planned. -/
structure ForkId where
  hash : ForkHash
  next : Uint 8
deriving DecidableEq, Inhabited

structure Status where
  protocolVersion : Uint 4
  networkId : Uint 8
  totalDifficulty : Uint 32
  head : Hash
  genesis : Hash
  forkId : ForkId
deriving DecidableEq, Inhabited

structure BlockAnnouncement where
  hash : Hash
  number : Uint 8
deriving DecidableEq, Inhabited

structure HeaderQuery where
  origin : BlockRef
  amount : Uint 8
  skip : Uint 8
  reverse : Bool
deriving DecidableEq, Inhabited

structure BlockPropagation where
  block : Block
  totalDifficulty : Uint 32
deriving DecidableEq, Inhabited

/-- Votes, wrapped into a record of one field. -/
structure VoteBatch where
  votes : List Vote
deriving DecidableEq, Inhabited

namespace Codec

def forkId : Codec ForkId :=
  (record "fork id" (.cons (octets 4) <| .one (uint 8))).through
    (fun f => (f.hash, f.next))
    (fun (hash, next) => { hash, next })

def status : Codec Status :=
  (record "Status"
    (.cons (uint 4) <| .cons (uint 8) <| .cons (uint 32) <| .cons (octets 32) <|
      .cons (octets 32) <| .one forkId)).through
    (fun s => (s.protocolVersion, s.networkId, s.totalDifficulty, s.head, s.genesis, s.forkId))
    (fun (protocolVersion, networkId, totalDifficulty, head, genesis, forkId) =>
      { protocolVersion, networkId, totalDifficulty, head, genesis, forkId })

def blockAnnouncement : Codec BlockAnnouncement :=
  (record "block hash announcement" (.cons (octets 32) <| .one (uint 8))).through
    (fun a => (a.hash, a.number))
    (fun (hash, number) => { hash, number })

def headerQuery : Codec HeaderQuery :=
  (record "GetBlockHeaders"
    (.cons blockRef <| .cons (uint 8) <| .cons (uint 8) <| .one bool)).through
    (fun q => (q.origin, q.amount, q.skip, q.reverse))
    (fun (origin, amount, skip, reverse) => { origin, amount, skip, reverse })

def blockPropagation : Codec BlockPropagation :=
  (record "NewBlock" (.cons block <| .one (uint 32))).through
    (fun p => (p.block, p.totalDifficulty))
    (fun (block, totalDifficulty) => { block, totalDifficulty })

def voteBatch : Codec VoteBatch :=
  (record "Votes" (.one (list vote))).through VoteBatch.votes VoteBatch.mk

end Codec

namespace Kind

abbrev Body : Kind -> Type
  | status => Status
  | newBlockHashes => List BlockAnnouncement
  | transactions => List Transaction
  | getBlockHeaders => HeaderQuery
  | blockHeaders => List BlockHeader
  | getBlockBodies => List Hash
  | blockBodies => List BlockBody
  | blockBodiesRaw => List RawItem
  | newBlock => BlockPropagation
  | newPooledTransactionHashes => List Hash
  | getPooledTransactions => List Hash
  | pooledTransactions => List Transaction
  | pooledTransactionsRaw => List RawItem
  | getNodeData => List Hash
  | nodeData => List Bytes
  | getReceipts => List Hash
  | receipts => List (List Receipt)
  | receiptsRaw => List RawItem
  | votes => VoteBatch

def codec : (k : Kind) -> Codec k.Body
  | status => .status
  | newBlockHashes => .list .blockAnnouncement
  | transactions => .list .transaction
  | getBlockHeaders => .headerQuery
  | blockHeaders => .list .blockHeader
  | getBlockBodies => .list (.octets 32)
  | blockBodies => .list .blockBody
  | blockBodiesRaw => .list .raw
  | newBlock => .blockPropagation
  | newPooledTransactionHashes => .list (.octets 32)
  | getPooledTransactions => .list (.octets 32)
  | pooledTransactions => .list .transaction
  | pooledTransactionsRaw => .list .raw
  | getNodeData => .list (.octets 32)
  | nodeData => .list .bytes
  | getReceipts => .list (.octets 32)
  | receipts => .list (.list .receipt)
  | receiptsRaw => .list .raw
  | votes => .voteBatch

end Kind

structure Message where
  kind : Kind
  body : kind.Body

namespace Message

def encode (m : Message) : Except EncodeFault Bytes :=
  m.kind.codec.encode m.body

def decode (k : Kind) : Decoder Message :=
  k.codec.decode.map (Message.mk k)

end Message
end ChainWire
