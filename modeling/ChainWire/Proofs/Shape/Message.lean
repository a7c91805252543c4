import ChainWire.Proofs.Message.Body
import ChainWire.Proofs.Shape.Chain

/-!
# Messages by shape

A message is read from some bytes exactly if they are the encoding of a value
of the right shape.  So the readers of typed items, which never build a value,
accept nothing that the reader of values refuses.
-/

namespace ChainWire
namespace Codec

theorem voteData_reads (levels : Nat) : voteData.Reads Shape.voteData (levels + 2) := by
  apply Reads.through
  · exact .record <| .cons (uint_reads 8 levels) <| .cons (octets_reads 32 levels) <|
      .cons (uint_reads 8 levels) <| .one (octets_reads 32 levels)
  · intro d
    rfl
  · intro fields
    rfl
  · intro d v
    rfl

theorem vote_reads (levels : Nat) : vote.Reads Shape.vote (levels + 3) := by
  apply Reads.through
  · exact .record <| .cons (octets_reads 48 _) <| .cons (octets_reads 96 _) <|
      .one (voteData_reads levels)
  · intro v
    rfl
  · intro fields
    rfl
  · intro x v
    rfl

theorem forkId_reads (levels : Nat) : forkId.Reads Shape.forkId (levels + 2) := by
  apply Reads.through
  · exact .record <| .cons (octets_reads 4 levels) <| .one (uint_reads 8 levels)
  · intro f
    rfl
  · intro fields
    rfl
  · intro f v
    rfl

theorem status_reads (levels : Nat) : status.Reads Shape.status (levels + 3) := by
  apply Reads.through
  · exact .record <| .cons (uint_reads 4 _) <| .cons (uint_reads 8 _) <|
      .cons (uint_reads 32 _) <| .cons (octets_reads 32 _) <| .cons (octets_reads 32 _) <|
      .one (forkId_reads levels)
  · intro s
    rfl
  · intro fields
    rfl
  · intro s v
    rfl

theorem blockAnnouncement_reads (levels : Nat) :
    blockAnnouncement.Reads Shape.blockAnnouncement (levels + 2) := by
  apply Reads.through
  · exact .record <| .cons (octets_reads 32 levels) <| .one (uint_reads 8 levels)
  · intro a
    rfl
  · intro fields
    rfl
  · intro a v
    rfl

theorem headerQuery_reads (levels : Nat) :
    headerQuery.Reads Shape.headerQuery (levels + 2) := by
  apply Reads.through
  · exact .record <| .cons (blockRef_reads levels) <| .cons (uint_reads 8 levels) <|
      .cons (uint_reads 8 levels) <| .one (bool_reads levels)
  · intro q
    rfl
  · intro fields
    rfl
  · intro q v
    rfl

theorem blockPropagation_reads (levels : Nat) :
    blockPropagation.Reads Shape.blockPropagation (levels + 5) := by
  apply Reads.through
  · exact .record <| .cons (block_reads levels) <| .one (uint_reads 32 _)
  · intro p
    rfl
  · intro fields
    rfl
  · intro p v
    rfl

theorem voteBatch_reads (levels : Nat) : voteBatch.Reads Shape.voteBatch (levels + 5) := by
  apply Reads.through
  · exact .record <| .one (vote_reads levels).list
  · intro b
    rfl
  · intro votes
    rfl
  · intro b v
    rfl

/-- The codecs of bodies that are read in full, and those of the parts of such bodies. -/
inductive IsTyped : {α : Type} -> Codec α -> Prop where
  | uint (width : Nat) : IsTyped (uint width)
  | octets (width : Nat) : IsTyped (octets width)
  | bytes : IsTyped bytes
  | bool : IsTyped bool
  | recipient : IsTyped recipient
  | blockRef : IsTyped blockRef
  | legacyTransaction : IsTyped legacyTransaction
  | transaction : IsTyped transaction
  | receiptStatus : IsTyped receiptStatus
  | log : IsTyped log
  | logs : IsTyped (list log)
  | receipt : IsTyped receipt
  | receipts : IsTyped (list receipt)
  | blockHeader : IsTyped blockHeader
  | blockBody : IsTyped blockBody
  | block : IsTyped block
  | voteData : IsTyped voteData
  | vote : IsTyped vote
  | votes : IsTyped (list vote)
  | forkId : IsTyped forkId
  | blockAnnouncement : IsTyped blockAnnouncement
  | body {k : Kind} : k.isRaw = false -> IsTyped k.codec

end Codec

theorem Kind.codec_reads {k : Kind} (hraw : k.isRaw = false) :
    exists levels, k.codec.Reads k.shape levels ∧ levels <= Value.maxDepth + 1 := by
  cases k with
  | status =>
      exact ⟨_, Codec.status_reads 0, by decide⟩
  | newBlockHashes =>
      exact ⟨_, (Codec.blockAnnouncement_reads 0).list, by decide⟩
  | transactions | pooledTransactions =>
      exact ⟨_, (Codec.transaction_reads 0).list, by decide⟩
  | getBlockHeaders =>
      exact ⟨_, Codec.headerQuery_reads 0, by decide⟩
  | blockHeaders =>
      exact ⟨_, (Codec.blockHeader_reads 0).list, by decide⟩
  | blockBodies =>
      exact ⟨_, (Codec.blockBody_reads 0).list, by decide⟩
  | newBlock =>
      exact ⟨_, Codec.blockPropagation_reads 0, by decide⟩
  | nodeData =>
      exact ⟨_, (Codec.bytes_reads 0).list, by decide⟩
  | receipts =>
      exact ⟨_, (Codec.receipt_reads 0).list.list, by decide⟩
  | votes =>
      exact ⟨_, Codec.voteBatch_reads 0, by decide⟩
  | getBlockBodies | newPooledTransactionHashes | getPooledTransactions | getNodeData
  | getReceipts =>
      exact ⟨_, (Codec.octets_reads 32 0).list, by decide⟩
  | blockBodiesRaw | pooledTransactionsRaw | receiptsRaw =>
      cases hraw

theorem Codec.IsTyped.reads {α : Type} {c : Codec α} (h : c.IsTyped) :
    exists (S : Shape α) (levels : Nat), c.Reads S levels ∧ levels <= Value.maxDepth + 1 := by
  cases h with
  | uint width =>
      exact ⟨_, _, uint_reads width 0, by decide⟩
  | octets width =>
      exact ⟨_, _, octets_reads width 0, by decide⟩
  | bytes =>
      exact ⟨_, _, bytes_reads 0, by decide⟩
  | bool =>
      exact ⟨_, _, bool_reads 0, by decide⟩
  | recipient =>
      exact ⟨_, _, recipient_reads 0, by decide⟩
  | blockRef =>
      exact ⟨_, _, blockRef_reads 0, by decide⟩
  | legacyTransaction =>
      exact ⟨_, _, legacyTransaction_reads 0, by decide⟩
  | transaction =>
      exact ⟨_, _, transaction_reads 0, by decide⟩
  | receiptStatus =>
      exact ⟨_, _, receiptStatus_reads 0, by decide⟩
  | log =>
      exact ⟨_, _, log_reads 0, by decide⟩
  | logs =>
      exact ⟨_, _, (log_reads 0).list, by decide⟩
  | receipt =>
      exact ⟨_, _, receipt_reads 0, by decide⟩
  | receipts =>
      exact ⟨_, _, (receipt_reads 0).list, by decide⟩
  | blockHeader =>
      exact ⟨_, _, blockHeader_reads 0, by decide⟩
  | blockBody =>
      exact ⟨_, _, blockBody_reads 0, by decide⟩
  | block =>
      exact ⟨_, _, block_reads 0, by decide⟩
  | voteData =>
      exact ⟨_, _, voteData_reads 0, by decide⟩
  | vote =>
      exact ⟨_, _, vote_reads 0, by decide⟩
  | votes =>
      exact ⟨_, _, (vote_reads 0).list, by decide⟩
  | forkId =>
      exact ⟨_, _, forkId_reads 0, by decide⟩
  | blockAnnouncement =>
      exact ⟨_, _, blockAnnouncement_reads 0, by decide⟩
  | body hraw =>
      rcases Kind.codec_reads hraw with ⟨levels, hreads, hlevels⟩
      exact ⟨_, levels, hreads, hlevels⟩

namespace Message

/--
A message of a kind is the whole input exactly if the whole input is a value of
its shape.  Nor does any part of a message, in front of whatever bytes, stand
where no value could be read.
-/
theorem decode_eq_ok_iff_hasShape :
    (forall (k : Kind), k.isRaw = false -> forall (b : Bytes) (m : Message),
      decode k b = .ok m [] <->
        m.kind = k ∧ exists v, Decoder.exact Value.decode b = .ok v ∧ m.HasShape v) ∧
    (forall {α : Type} (c : Codec α), c.IsTyped ->
      forall (b rest : Bytes) (x : α), c.decode b = .ok x rest ->
        exists v, Value.decode b = .ok v rest) := by
  constructor
  · intro k hraw b m
    rcases Kind.codec_reads hraw with ⟨levels, hreads, hlevels⟩
    constructor
    · intro h
      rcases decode_eq_ok_iff.mp h with ⟨body, hbody, rfl⟩
      exact ⟨rfl, (hreads.decode_eq_ok_iff hlevels).mp hbody⟩
    · rcases m with ⟨k', body⟩
      rintro ⟨rfl, hvalue⟩
      exact decode_eq_ok_iff.mpr ⟨body, (hreads.decode_eq_ok_iff hlevels).mpr hvalue, rfl⟩
  · intro α c hc b rest x h
    rcases hc.reads with ⟨S, levels, hreads, hlevels⟩
    exact hreads.exists_decode_eq_ok hlevels h

/-- A query for two headers backwards from block seven, and its first field by itself. -/
theorem decode_eq_ok_iff_hasShape_query :
    (Kind.getBlockHeaders.isRaw = false ∧
      decode .getBlockHeaders [0xC4, 0x07, 0x02, 0x80, 0x01] =
        .ok ⟨.getBlockHeaders, ⟨.number ⟨7, by decide⟩, ⟨2, by decide⟩, ⟨0, by decide⟩, true⟩⟩ [] ∧
      exists v, Decoder.exact Value.decode [0xC4, 0x07, 0x02, 0x80, 0x01] = .ok v ∧
        HasShape ⟨.getBlockHeaders,
          ⟨.number ⟨7, by decide⟩, ⟨2, by decide⟩, ⟨0, by decide⟩, true⟩⟩ v) ∧
    (Codec.blockRef.IsTyped ∧
      Codec.blockRef.decode [0x07, 0x02] = .ok (.number ⟨7, by decide⟩) [0x02] ∧
      exists v, Value.decode [0x07, 0x02] = .ok v [0x02]) := by
  have hquery : decode .getBlockHeaders [0xC4, 0x07, 0x02, 0x80, 0x01] =
      .ok ⟨.getBlockHeaders, ⟨.number ⟨7, by decide⟩, ⟨2, by decide⟩, ⟨0, by decide⟩, true⟩⟩ [] :=
    rfl
  have hfield : Codec.blockRef.decode [0x07, 0x02] = .ok (.number ⟨7, by decide⟩) [0x02] := rfl
  refine ⟨⟨rfl, hquery, ?_⟩, .blockRef, hfield, ?_⟩
  · exact ((decode_eq_ok_iff_hasShape.1 .getBlockHeaders rfl _ _).mp hquery).2
  · exact decode_eq_ok_iff_hasShape.2 _ .blockRef _ _ _ hfield

end Message
end ChainWire
