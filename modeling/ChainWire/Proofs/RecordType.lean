import ChainWire.Proofs.Codec.Counting
import ChainWire.Proofs.Message.Framing

/-!
# Records and the number of their fields

Every record of the library, as data: its name in faults, how many fields it
has, and the fields of a value in the order in which they travel.  All records
have a fixed number of fields but the header of a block, which may lack the
last one.
-/

namespace ChainWire

open Header (payloadLimit)

/-- The records, with those around the bodies of messages among them. -/
inductive RecordType where
  | legacyTransaction
  | log
  /-- What a receipt of the given type holds beside its type. -/
  | receipt (type : UInt8)
  | blockHeader
  | blockBody
  | block
  | voteData
  | vote
  | blockAnnouncement
  | forkId
  | status
  | headerQuery
  | blockPropagation
  | voteBatch
  /-- A request id in front of the body of a message. -/
  | withId (kind : Kind)
deriving DecidableEq

namespace RecordType

abbrev Carrier : RecordType -> Type
  | legacyTransaction => LegacyTransaction
  | log => Log
  | receipt _ => Receipt
  | blockHeader => BlockHeader
  | blockBody => BlockBody
  | block => Block
  | voteData => VoteData
  | vote => Vote
  | blockAnnouncement => BlockAnnouncement
  | forkId => ForkId
  | status => Status
  | headerQuery => HeaderQuery
  | blockPropagation => BlockPropagation
  | voteBatch => VoteBatch
  | withId kind => RequestId × kind.Body

def codec : (r : RecordType) -> Codec r.Carrier
  | legacyTransaction => .legacyTransaction
  | log => .log
  | receipt type => .receiptRecord type
  | blockHeader => .blockHeader
  | blockBody => .blockBody
  | block => .block
  | voteData => .voteData
  | vote => .vote
  | blockAnnouncement => .blockAnnouncement
  | forkId => .forkId
  | status => .status
  | headerQuery => .headerQuery
  | blockPropagation => .blockPropagation
  | voteBatch => .voteBatch
  | withId kind => .record kind.name (.cons (.uint 8) (.one kind.codec))

def name : RecordType -> String
  | legacyTransaction => "legacy transaction"
  | log => "log"
  | receipt _ => "receipt"
  | blockHeader => "block header"
  | blockBody => "block body"
  | block => "block"
  | voteData => "vote data"
  | vote => "vote envelope"
  | blockAnnouncement => "block hash announcement"
  | forkId => "fork id"
  | status => "Status"
  | headerQuery => "GetBlockHeaders"
  | blockPropagation => "NewBlock"
  | voteBatch => "Votes"
  | withId kind => kind.name

def fewest : RecordType -> Nat
  | legacyTransaction => 9
  | log => 3
  | receipt _ => 4
  | blockHeader => 15
  | blockBody => 2
  | block => 3
  | voteData => 4
  | vote => 3
  | blockAnnouncement => 2
  | forkId => 2
  | status => 6
  | headerQuery => 4
  | blockPropagation => 2
  | voteBatch => 1
  | withId _ => 2

/-- The number of fields that can be there: a header of a block may have a base fee. -/
def most : RecordType -> Nat
  | blockHeader => 16
  | r => r.fewest

open Codec (uint octets bytes bool list) in
/-- The fields of a value as items, each of which may fail to be written. -/
def fields : (r : RecordType) -> r.Carrier -> List (Except EncodeFault Bytes)
  | legacyTransaction, t =>
      [(uint 8).encode t.nonce, (uint 32).encode t.gasPrice, (uint 8).encode t.gas,
        Codec.recipient.encode t.recipient, (uint 32).encode t.value, bytes.encode t.data,
        (uint 32).encode t.v, (uint 32).encode t.r, (uint 32).encode t.s]
  | log, l =>
      [(octets 20).encode l.address, (list (octets 32)).encode l.topics, bytes.encode l.data]
  | receipt _, r =>
      [Codec.receiptStatus.encode r.status, (uint 8).encode r.cumulativeGasUsed,
        (octets 256).encode r.bloom, (list .log).encode r.logs]
  | blockHeader, h =>
      [(octets 32).encode h.parentHash, (octets 32).encode h.uncleHash,
        (octets 20).encode h.coinbase, (octets 32).encode h.stateRoot,
        (octets 32).encode h.transactionsRoot, (octets 32).encode h.receiptsRoot,
        (octets 256).encode h.logsBloom, (uint 32).encode h.difficulty,
        (uint 32).encode h.number, (uint 8).encode h.gasLimit, (uint 8).encode h.gasUsed,
        (uint 8).encode h.timestamp, bytes.encode h.extraData, (octets 32).encode h.mixHash,
        (octets 8).encode h.nonce] ++ h.baseFee.toList.map (uint 32).encode
  | blockBody, b =>
      [(list .transaction).encode b.transactions, (list .blockHeader).encode b.uncles]
  | block, b =>
      [Codec.blockHeader.encode b.header, (list .transaction).encode b.transactions,
        (list .blockHeader).encode b.uncles]
  | voteData, d =>
      [(uint 8).encode d.sourceNumber, (octets 32).encode d.sourceHash,
        (uint 8).encode d.targetNumber, (octets 32).encode d.targetHash]
  | vote, v =>
      [(octets 48).encode v.address, (octets 96).encode v.signature, Codec.voteData.encode v.data]
  | blockAnnouncement, a => [(octets 32).encode a.hash, (uint 8).encode a.number]
  | forkId, f => [(octets 4).encode f.hash, (uint 8).encode f.next]
  | status, s =>
      [(uint 4).encode s.protocolVersion, (uint 8).encode s.networkId,
        (uint 32).encode s.totalDifficulty, (octets 32).encode s.head,
        (octets 32).encode s.genesis, Codec.forkId.encode s.forkId]
  | headerQuery, q =>
      [Codec.blockRef.encode q.origin, (uint 8).encode q.amount, (uint 8).encode q.skip,
        bool.encode q.reverse]
  | blockPropagation, p =>
      [Codec.block.encode p.block, (uint 32).encode p.totalDifficulty]
  | voteBatch, b => [(list .vote).encode b.votes]
  | withId kind, p => [(uint 8).encode p.1, kind.codec.encode p.2]

def WellFormed : (r : RecordType) -> r.Carrier -> Prop
  | withId kind, p => (Message.mk kind p.2).WellFormed
  | _, _ => True

end RecordType

/-!
## Every record counts its fields
-/

namespace Codec

theorem legacyTransaction_counts :
    legacyTransaction.Counts "legacy transaction" 9 9 (RecordType.fields .legacyTransaction) :=
  .through <| .record <| .cons (uint_strict 8) <| .cons (uint_strict 32) <|
    .cons (uint_strict 8) <| .cons recipient_strict <| .cons (uint_strict 32) <|
    .cons bytes_strict <| .cons (uint_strict 32) <| .cons (uint_strict 32) <|
    .one (uint_strict 32)

theorem log_counts : log.Counts "log" 3 3 (RecordType.fields .log) :=
  .through <| .record <| .cons (octets_strict 20) <| .cons (octets_strict 32).list <|
    .one bytes_strict

theorem receiptRecord_counts (type : UInt8) :
    (receiptRecord type).Counts "receipt" 4 4 (RecordType.fields (.receipt type)) :=
  .through <| .record <| .cons receiptStatus_strict <| .cons (uint_strict 8) <|
    .cons (octets_strict 256) <| .one log_strict.list

theorem blockHeader_counts :
    blockHeader.Counts "block header" 15 16 (RecordType.fields .blockHeader) :=
  .through <| .record <| .cons (octets_strict 32) <| .cons (octets_strict 32) <|
    .cons (octets_strict 20) <| .cons (octets_strict 32) <| .cons (octets_strict 32) <|
    .cons (octets_strict 32) <| .cons (octets_strict 256) <| .cons (uint_strict 32) <|
    .cons (uint_strict 32) <| .cons (uint_strict 8) <| .cons (uint_strict 8) <|
    .cons (uint_strict 8) <| .cons bytes_strict <| .cons (octets_strict 32) <|
    .cons (octets_strict 8) <| .optional (uint_strict 32)

theorem blockBody_counts : blockBody.Counts "block body" 2 2 (RecordType.fields .blockBody) :=
  .through <| .record <| .cons transaction_strict.list <| .one blockHeader_strict.list

theorem block_counts : block.Counts "block" 3 3 (RecordType.fields .block) :=
  .through <| .record <| .cons blockHeader_strict <| .cons transaction_strict.list <|
    .one blockHeader_strict.list

theorem voteData_counts : voteData.Counts "vote data" 4 4 (RecordType.fields .voteData) :=
  .through <| .record <| .cons (uint_strict 8) <| .cons (octets_strict 32) <|
    .cons (uint_strict 8) <| .one (octets_strict 32)

theorem vote_counts : vote.Counts "vote envelope" 3 3 (RecordType.fields .vote) :=
  .through <| .record <| .cons (octets_strict 48) <| .cons (octets_strict 96) <|
    .one voteData_strict

theorem blockAnnouncement_counts :
    blockAnnouncement.Counts "block hash announcement" 2 2
      (RecordType.fields .blockAnnouncement) :=
  .through <| .record <| .cons (octets_strict 32) <| .one (uint_strict 8)

theorem forkId_counts : forkId.Counts "fork id" 2 2 (RecordType.fields .forkId) :=
  .through <| .record <| .cons (octets_strict 4) <| .one (uint_strict 8)

theorem status_counts : status.Counts "Status" 6 6 (RecordType.fields .status) :=
  .through <| .record <| .cons (uint_strict 4) <| .cons (uint_strict 8) <|
    .cons (uint_strict 32) <| .cons (octets_strict 32) <| .cons (octets_strict 32) <|
    .one forkId_strict

theorem headerQuery_counts :
    headerQuery.Counts "GetBlockHeaders" 4 4 (RecordType.fields .headerQuery) :=
  .through <| .record <| .cons blockRef_strict <| .cons (uint_strict 8) <|
    .cons (uint_strict 8) <| .one bool_strict

theorem blockPropagation_counts :
    blockPropagation.Counts "NewBlock" 2 2 (RecordType.fields .blockPropagation) :=
  .through <| .record <| .cons block_strict <| .one (uint_strict 32)

theorem voteBatch_counts : voteBatch.Counts "Votes" 1 1 (RecordType.fields .voteBatch) :=
  .through <| .record <| .one vote_strict.list

end Codec

namespace RecordType

theorem codec_counts (r : RecordType) (x : r.Carrier) (hx : r.WellFormed x) :
    r.codec.CountsAt r.name r.fewest r.most x (r.fields x) := by
  cases r with
  | legacyTransaction =>
      exact Codec.legacyTransaction_counts x
  | log =>
      exact Codec.log_counts x
  | receipt type =>
      exact Codec.receiptRecord_counts type x
  | blockHeader =>
      exact Codec.blockHeader_counts x
  | blockBody =>
      exact Codec.blockBody_counts x
  | block =>
      exact Codec.block_counts x
  | voteData =>
      exact Codec.voteData_counts x
  | vote =>
      exact Codec.vote_counts x
  | blockAnnouncement =>
      exact Codec.blockAnnouncement_counts x
  | forkId =>
      exact Codec.forkId_counts x
  | status =>
      exact Codec.status_counts x
  | headerQuery =>
      exact Codec.headerQuery_counts x
  | blockPropagation =>
      exact Codec.blockPropagation_counts x
  | voteBatch =>
      exact Codec.voteBatch_counts x
  | withId kind =>
      rcases x with ⟨id, body⟩
      exact .record <| .cons Uint.decode_itemWise ((Codec.uint_strict 8).roundTrips id) <|
        .one kind.codec_itemWise (Kind.codec_roundTripsAt hx)

end RecordType
end ChainWire
