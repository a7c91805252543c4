import ChainWire.Message.Writers
import ChainWire.Proofs.Writer.Basic

/-!
# All of an item or nothing

Writing an item of any type into a buffer leaves what was there in front of the
item, and a buffer that an item could not be written to is as it was.  It does
not matter how deep inside the item writing failed, or how much of the item had
been written by then.

So the fields of a record may be tried one after another: whatever could not be
written has left no trace in it.
-/

namespace ChainWire

namespace Codec

/-!
## Chain data
-/

theorem blockRef_writtenBy : blockRef.WrittenBy .blockRef := by
  intro ref out
  cases ref <;> rfl

theorem recipient_writtenBy : recipient.WrittenBy .recipient := by
  intro recipient out
  cases recipient <;> rfl

theorem receiptStatus_writtenBy : receiptStatus.WrittenBy .receiptStatus := by
  intro status out
  cases status <;> rfl

theorem legacyTransaction_writtenBy : legacyTransaction.WrittenBy .legacyTransaction :=
  .through <| .record <| .cons (uint_writtenBy 8) <| .cons (uint_writtenBy 32) <|
    .cons (uint_writtenBy 8) <| .cons recipient_writtenBy <| .cons (uint_writtenBy 32) <|
    .cons bytes_writtenBy <| .cons (uint_writtenBy 32) <| .cons (uint_writtenBy 32) <|
    .one (uint_writtenBy 32)

theorem transaction_writtenBy : transaction.WrittenBy .transaction := by
  intro t out
  cases t with
  | legacy t =>
      exact legacyTransaction_writtenBy t out
  | typed type payload =>
      exact Push.envelope_eq type payload out

theorem log_writtenBy : log.WrittenBy .log :=
  .through <| .record <| .cons (octets_writtenBy 20) <| .cons (octets_writtenBy 32).list <|
    .one bytes_writtenBy

theorem receiptRecord_writtenBy (type : UInt8) :
    (receiptRecord type).WrittenBy .receiptRecord :=
  .through <| .record <| .cons receiptStatus_writtenBy <| .cons (uint_writtenBy 8) <|
    .cons (octets_writtenBy 256) <| .one log_writtenBy.list

theorem receipt_writtenBy : receipt.WrittenBy .receipt := by
  intro r out
  show Writer.receipt r out = .appending out ((receiptRecord r.type).encode r >>= fun inner =>
    if r.type = 0 then pure inner else TypedEnvelope.encode r.type inner)
  have hrecord := receiptRecord_writtenBy r.type r
  unfold Writer.receipt
  split
  · rw [hrecord]
    cases (receiptRecord r.type).encode r <;> rfl
  · rw [hrecord]
    cases (receiptRecord r.type).encode r with
    | error e =>
        rfl
    | ok inner =>
        exact Push.envelope_eq r.type inner out

theorem blockHeader_writtenBy : blockHeader.WrittenBy .blockHeader :=
  .through <| .record <| .cons (octets_writtenBy 32) <| .cons (octets_writtenBy 32) <|
    .cons (octets_writtenBy 20) <| .cons (octets_writtenBy 32) <| .cons (octets_writtenBy 32) <|
    .cons (octets_writtenBy 32) <| .cons (octets_writtenBy 256) <| .cons (uint_writtenBy 32) <|
    .cons (uint_writtenBy 32) <| .cons (uint_writtenBy 8) <| .cons (uint_writtenBy 8) <|
    .cons (uint_writtenBy 8) <| .cons bytes_writtenBy <| .cons (octets_writtenBy 32) <|
    .cons (octets_writtenBy 8) <| .optional (uint_writtenBy 32)

theorem blockBody_writtenBy : blockBody.WrittenBy .blockBody :=
  .through <| .record <| .cons transaction_writtenBy.list <| .one blockHeader_writtenBy.list

theorem block_writtenBy : block.WrittenBy .block :=
  .through <| .record <| .cons blockHeader_writtenBy <| .cons transaction_writtenBy.list <|
    .one blockHeader_writtenBy.list

theorem voteData_writtenBy : voteData.WrittenBy .voteData :=
  .through <| .record <| .cons (uint_writtenBy 8) <| .cons (octets_writtenBy 32) <|
    .cons (uint_writtenBy 8) <| .one (octets_writtenBy 32)

theorem vote_writtenBy : vote.WrittenBy .vote :=
  .through <| .record <| .cons (octets_writtenBy 48) <| .cons (octets_writtenBy 96) <|
    .one voteData_writtenBy

/-!
## Bodies
-/

theorem forkId_writtenBy : forkId.WrittenBy .forkId :=
  .through <| .record <| .cons (octets_writtenBy 4) <| .one (uint_writtenBy 8)

theorem status_writtenBy : status.WrittenBy .status :=
  .through <| .record <| .cons (uint_writtenBy 4) <| .cons (uint_writtenBy 8) <|
    .cons (uint_writtenBy 32) <| .cons (octets_writtenBy 32) <| .cons (octets_writtenBy 32) <|
    .one forkId_writtenBy

theorem blockAnnouncement_writtenBy : blockAnnouncement.WrittenBy .blockAnnouncement :=
  .through <| .record <| .cons (octets_writtenBy 32) <| .one (uint_writtenBy 8)

theorem headerQuery_writtenBy : headerQuery.WrittenBy .headerQuery :=
  .through <| .record <| .cons blockRef_writtenBy <| .cons (uint_writtenBy 8) <|
    .cons (uint_writtenBy 8) <| .one bool_writtenBy

theorem blockPropagation_writtenBy : blockPropagation.WrittenBy .blockPropagation :=
  .through <| .record <| .cons block_writtenBy <| .one (uint_writtenBy 32)

theorem voteBatch_writtenBy : voteBatch.WrittenBy .voteBatch :=
  .through <| .record <| .one vote_writtenBy.list

end Codec

theorem Kind.codec_writtenBy (k : Kind) : k.codec.WrittenBy k.writer := by
  cases k with
  | status =>
      exact Codec.status_writtenBy
  | newBlockHashes =>
      exact Codec.blockAnnouncement_writtenBy.list
  | transactions | pooledTransactions =>
      exact Codec.transaction_writtenBy.list
  | getBlockHeaders =>
      exact Codec.headerQuery_writtenBy
  | blockHeaders =>
      exact Codec.blockHeader_writtenBy.list
  | blockBodies =>
      exact Codec.blockBody_writtenBy.list
  | newBlock =>
      exact Codec.blockPropagation_writtenBy
  | nodeData =>
      exact Codec.bytes_writtenBy.list
  | receipts =>
      exact Codec.receipt_writtenBy.list.list
  | votes =>
      exact Codec.voteBatch_writtenBy
  | getBlockBodies | newPooledTransactionHashes | getPooledTransactions | getNodeData
  | getReceipts =>
      exact (Codec.octets_writtenBy 32).list
  | blockBodiesRaw | pooledTransactionsRaw | receiptsRaw =>
      exact Codec.raw_writtenBy.list

theorem ItemType.codec_writtenBy (t : ItemType) : t.codec.WrittenBy t.writer := by
  induction t with
  | uint width =>
      exact Codec.uint_writtenBy width
  | bool =>
      exact Codec.bool_writtenBy
  | bytes =>
      exact Codec.bytes_writtenBy
  | octets width =>
      exact Codec.octets_writtenBy width
  | value =>
      exact Codec.value_writtenBy
  | raw =>
      exact Codec.raw_writtenBy
  | list items ih =>
      exact ih.list
  | blockRef =>
      exact Codec.blockRef_writtenBy
  | legacyTransaction =>
      exact Codec.legacyTransaction_writtenBy
  | transaction =>
      exact Codec.transaction_writtenBy
  | log =>
      exact Codec.log_writtenBy
  | receiptStatus =>
      exact Codec.receiptStatus_writtenBy
  | receipt =>
      exact Codec.receipt_writtenBy
  | blockHeader =>
      exact Codec.blockHeader_writtenBy
  | blockBody =>
      exact Codec.blockBody_writtenBy
  | block =>
      exact Codec.block_writtenBy
  | voteData =>
      exact Codec.voteData_writtenBy
  | vote =>
      exact Codec.vote_writtenBy
  | forkId =>
      exact Codec.forkId_writtenBy
  | blockAnnouncement =>
      exact Codec.blockAnnouncement_writtenBy
  | body kind =>
      exact kind.codec_writtenBy

theorem Framing.encode_withId (id : RequestId) (m : Message) :
    withId.encode ⟨some id, m⟩ =
      (Codec.record m.kind.name (.cons (.uint 8) (.one m.kind.codec))).encode (id, m.body) := by
  show m.kind.codec.encode m.body >>= _ = Except.map _ (pure id.encode >>= fun first =>
    m.kind.codec.encode m.body >>= fun second => pure (first ++ second))
  cases m.kind.codec.encode m.body <;> rfl

theorem Framing.write_eq (f : Framing) (p : Packet) (out : Bytes) :
    f.write p out = .appending out (f.encode p) := by
  rcases p with ⟨id, m⟩
  cases f with
  | bare =>
      cases id with
      | none =>
          exact m.kind.codec_writtenBy m.body out
      | some id =>
          rfl
  | withId =>
      cases id with
      | none =>
          rfl
      | some id =>
          have hfields := Fields.PushedBy.cons (Codec.uint_writtenBy 8)
            (Fields.PushedBy.one m.kind.codec_writtenBy)
          rw [encode_withId]
          exact Codec.WrittenBy.record hfields (id, m.body) out

end ChainWire
