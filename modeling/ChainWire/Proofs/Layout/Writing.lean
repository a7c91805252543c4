import ChainWire.Proofs.Chain.Receipt
import ChainWire.Proofs.Layout.Basic
import ChainWire.Proofs.Message.Framing
import ChainWire.Proofs.Value.Basic

/-!
# Writing by layout

Codecs write the bytes of the layout: whenever a typed item can be written, the
result is the encoding of its value.  Payloads are buffered on the one side and
measured in advance on the other, so the bytes of a list have to be followed
from the items outwards, one record at a time.
-/

namespace ChainWire

/-- Whatever is written is the encoding of the layout. -/
def Codec.Writes {α : Type} (c : Codec α) (layout : α -> Value) : Prop :=
  forall x e, c.encode x = .ok e -> e = (layout x).encode

def Fields.Writes {α : Type} (f : Fields α) (layouts : α -> List Value) : Prop :=
  forall x b, f.encode x = .ok b -> b = (layouts x).flatMap Value.encode

namespace Fields
namespace Writes

variable {α β : Type} {c : Codec α} {layout : α -> Value} {g : Fields β}
  {layouts : β -> List Value}

theorem one (hc : c.Writes layout) : (one c).Writes (fun x => [layout x]) := by
  intro x b hb
  rw [List.flatMap_singleton]
  exact hc x b hb

theorem optional (hc : c.Writes layout) :
    (optional c).Writes (fun x => x.toList.map layout) := by
  intro x b hb
  cases x with
  | none =>
      cases hb
      rfl
  | some x =>
      show b = [layout x].flatMap Value.encode
      rw [List.flatMap_singleton]
      exact hc x b hb

theorem cons (hc : c.Writes layout) (hg : g.Writes layouts) :
    (cons c g).Writes (fun p => layout p.1 :: layouts p.2) := by
  rintro ⟨x, y⟩ b hb
  rcases and_encode_eq_ok.mp hb with ⟨first, second, hfirst, hsecond, rfl⟩
  rw [List.flatMap_cons, hc x first hfirst, hg y second hsecond]

end Writes
end Fields

namespace Codec

section Writes

variable {α β : Type} {c : Codec α} {layout : α -> Value}

theorem Writes.record {f : Fields α} {layouts : α -> List Value} {item : String}
    (hf : f.Writes layouts) : (record item f).Writes (fun x => .list (layouts x)) := by
  intro x e he
  rcases (record_encode_eq_ok item).mp he with ⟨payload, hpayload, rfl⟩
  rw [hf x payload hpayload, Value.encode_list]
  rfl

theorem Writes.through (hc : c.Writes layout) {view : β -> α} {build : α -> β} :
    (c.through view build).Writes (fun y => layout (view y)) :=
  fun y e he => hc (view y) e he

theorem encodeAll_eq_flatMap (hc : c.Writes layout) {xs : List α} {b : Bytes}
    (hb : c.encodeAll xs = .ok b) : b = (xs.map layout).flatMap Value.encode := by
  induction xs generalizing b with
  | nil =>
      cases hb
      rfl
  | cons x xs ih =>
      rcases encodeAll_cons_eq_ok.mp hb with ⟨e, tail, he, htail, rfl⟩
      rw [List.map_cons, List.flatMap_cons, hc x e he, ih htail]

theorem Writes.list (hc : c.Writes layout) : (list c).Writes (Layout.sequence layout) := by
  intro xs e he
  rcases list_encode_eq_ok_iff.mp he with ⟨payload, hpayload, rfl⟩
  rw [encodeAll_eq_flatMap hc hpayload, Layout.sequence, Value.encode_list]
  rfl

theorem Writes.of_string {view : α -> Bytes}
    (hencode : forall x, c.encode x = .ok (Item.ofString (view x)))
    (hlayout : forall x, layout x = .bytes (view x)) : c.Writes layout := by
  intro x e he
  rw [hencode] at he
  cases he
  rw [hlayout, Value.encode_bytes]

end Writes

/-!
## Single fields
-/

theorem uint_writes (width : Nat) : (uint width).Writes Layout.uint :=
  .of_string (fun _ => rfl) (fun _ => rfl)

theorem octets_writes (width : Nat) : (octets width).Writes Layout.octets :=
  .of_string (fun _ => rfl) (fun _ => rfl)

theorem bytes_writes : bytes.Writes Value.bytes :=
  .of_string (fun _ => rfl) (fun _ => rfl)

theorem bool_writes : bool.Writes Layout.bool :=
  .of_string (fun _ => rfl) (fun _ => rfl)

theorem recipient_writes : recipient.Writes Layout.recipient := by
  intro x e he
  cases x <;> cases he <;> exact (Value.encode_bytes _).symm

theorem blockRef_writes : blockRef.Writes Layout.blockRef := by
  intro ref e he
  cases ref <;> cases he <;> exact (Value.encode_bytes _).symm

theorem receiptStatus_writes : receiptStatus.Writes Layout.receiptStatus := by
  intro s e he
  cases s <;> cases he <;> exact (Value.encode_bytes _).symm

theorem typedEnvelope_writes {type : UInt8} {payload e : Bytes}
    (he : TypedEnvelope.encode type payload = .ok e) :
    e = (Value.bytes (type :: payload)).encode := by
  rw [(TypedEnvelope.encode_eq_ok_iff.mp he).2, Value.encode_bytes]

/-!
## Chain data
-/

theorem legacyTransaction_writes : legacyTransaction.Writes Layout.legacyTransaction :=
  .through <| .record <| .cons (uint_writes 8) <| .cons (uint_writes 32) <|
    .cons (uint_writes 8) <| .cons recipient_writes <| .cons (uint_writes 32) <|
    .cons bytes_writes <| .cons (uint_writes 32) <| .cons (uint_writes 32) <|
    .one (uint_writes 32)

theorem transaction_writes : transaction.Writes Layout.transaction := by
  intro t e he
  cases t with
  | legacy t =>
      exact legacyTransaction_writes t e he
  | typed type payload =>
      exact typedEnvelope_writes he

theorem log_writes : log.Writes Layout.log :=
  .through <| .record <| .cons (octets_writes 20) <| .cons (octets_writes 32).list <|
    .one bytes_writes

theorem receiptRecord_writes (type : UInt8) : (receiptRecord type).Writes Layout.receiptRecord :=
  .through <| .record <| .cons receiptStatus_writes <| .cons (uint_writes 8) <|
    .cons (octets_writes 256) <| .one log_writes.list

theorem receipt_writes : receipt.Writes Layout.receipt := by
  intro r e he
  -- The record is written in both forms; the type only says what is put around it.
  rcases receipt_encode_eq_ok.mp he with ⟨inner, hinner, hform⟩
  have hrecord := receiptRecord_writes r.type r inner hinner
  unfold Layout.receipt
  split at hform
  · rename_i htype
    rw [hform, if_pos htype, hrecord]
  · rename_i htype
    rw [if_neg htype, typedEnvelope_writes hform, hrecord]

theorem blockHeader_writes : blockHeader.Writes Layout.blockHeader :=
  .through <| .record <| .cons (octets_writes 32) <| .cons (octets_writes 32) <|
    .cons (octets_writes 20) <| .cons (octets_writes 32) <| .cons (octets_writes 32) <|
    .cons (octets_writes 32) <| .cons (octets_writes 256) <| .cons (uint_writes 32) <|
    .cons (uint_writes 32) <| .cons (uint_writes 8) <| .cons (uint_writes 8) <|
    .cons (uint_writes 8) <| .cons bytes_writes <| .cons (octets_writes 32) <|
    .cons (octets_writes 8) <| .optional (uint_writes 32)

theorem blockBody_writes : blockBody.Writes Layout.blockBody :=
  .through <| .record <| .cons transaction_writes.list <| .one blockHeader_writes.list

theorem block_writes : block.Writes Layout.block :=
  .through <| .record <| .cons blockHeader_writes <| .cons transaction_writes.list <|
    .one blockHeader_writes.list

theorem voteData_writes : voteData.Writes Layout.voteData :=
  .through <| .record <| .cons (uint_writes 8) <| .cons (octets_writes 32) <|
    .cons (uint_writes 8) <| .one (octets_writes 32)

theorem vote_writes : vote.Writes Layout.vote :=
  .through <| .record <| .cons (octets_writes 48) <| .cons (octets_writes 96) <|
    .one voteData_writes

/-!
## Bodies
-/

theorem forkId_writes : forkId.Writes Layout.forkId :=
  .through <| .record <| .cons (octets_writes 4) <| .one (uint_writes 8)

theorem status_writes : status.Writes Layout.status :=
  .through <| .record <| .cons (uint_writes 4) <| .cons (uint_writes 8) <|
    .cons (uint_writes 32) <| .cons (octets_writes 32) <| .cons (octets_writes 32) <|
    .one forkId_writes

theorem blockAnnouncement_writes : blockAnnouncement.Writes Layout.blockAnnouncement :=
  .through <| .record <| .cons (octets_writes 32) <| .one (uint_writes 8)

theorem headerQuery_writes : headerQuery.Writes Layout.headerQuery :=
  .through <| .record <| .cons blockRef_writes <| .cons (uint_writes 8) <|
    .cons (uint_writes 8) <| .one bool_writes

theorem blockPropagation_writes : blockPropagation.Writes Layout.blockPropagation :=
  .through <| .record <| .cons block_writes <| .one (uint_writes 32)

theorem voteBatch_writes : voteBatch.Writes Layout.voteBatch :=
  .through <| .record <| .one vote_writes.list

end Codec

/-!
## Messages
-/

theorem Kind.codec_writes {k : Kind} {body : k.Body} {v : Value} {e : Bytes}
    (hlayout : k.layout? body = some v) (he : k.codec.encode body = .ok e) : e = v.encode := by
  cases k with
  | status =>
      cases hlayout
      exact Codec.status_writes body e he
  | newBlockHashes =>
      cases hlayout
      exact Codec.blockAnnouncement_writes.list body e he
  | transactions | pooledTransactions =>
      cases hlayout
      exact Codec.transaction_writes.list body e he
  | getBlockHeaders =>
      cases hlayout
      exact Codec.headerQuery_writes body e he
  | blockHeaders =>
      cases hlayout
      exact Codec.blockHeader_writes.list body e he
  | blockBodies =>
      cases hlayout
      exact Codec.blockBody_writes.list body e he
  | newBlock =>
      cases hlayout
      exact Codec.blockPropagation_writes body e he
  | nodeData =>
      cases hlayout
      exact Codec.bytes_writes.list body e he
  | receipts =>
      cases hlayout
      exact Codec.receipt_writes.list.list body e he
  | votes =>
      cases hlayout
      exact Codec.voteBatch_writes body e he
  | getBlockBodies | newPooledTransactionHashes | getPooledTransactions | getNodeData
  | getReceipts =>
      cases hlayout
      exact (Codec.octets_writes 32).list body e he
  | blockBodiesRaw | pooledTransactionsRaw | receiptsRaw =>
      cases hlayout

theorem Kind.exists_layout {k : Kind} (hraw : k.isRaw = false) (body : k.Body) :
    exists v, k.layout? body = some v := by
  cases k with
  | blockBodiesRaw | pooledTransactionsRaw | receiptsRaw =>
      cases hraw
  | _ =>
      exact ⟨_, rfl⟩

namespace Layout

theorem encode_withId (id : RequestId) (body : Value) :
    (withId id body).encode = Item.ofPayload (id.encode ++ body.encode) := by
  have hid : id.encode = (uint id).encode := Codec.uint_writes 8 id _ rfl
  rw [withId, Value.encode_list, hid]
  simp [Value.payload]

end Layout

namespace Message

/--
Every message that is read in full has a layout, which is what its bytes
encode.  Behind a request id it is the second item of a list of two.
-/
theorem encode_eq_layout (m : Message) (hraw : m.kind.isRaw = false) :
    exists value, m.layout? = some value ∧
      (forall e, m.encode = .ok e -> e = value.encode) ∧
      (forall (v : Version) (id : RequestId) (code : Nat) (b : Bytes),
        v.encode ⟨some id, m⟩ = .ok (code, b) <->
          v.framing m.kind = some .withId ∧ (exists e, m.encode = .ok e) ∧
            code = m.kind.code ∧ b = (Layout.withId id value).encode) := by
  rcases Kind.exists_layout hraw m.body with ⟨value, hlayout⟩
  have hbody {e : Bytes} (he : m.encode = .ok e) : e = value.encode :=
    Kind.codec_writes hlayout he
  refine ⟨value, hlayout, fun e he => hbody he, ?_⟩
  intro v id code b
  rw [Version.encode_withId_eq_ok_iff, Layout.encode_withId]
  constructor
  · rintro ⟨hframing, hcode, e, he, rfl⟩
    exact ⟨hframing, ⟨e, he⟩, hcode, by rw [hbody he]⟩
  · rintro ⟨hframing, ⟨e, he⟩, hcode, rfl⟩
    exact ⟨hframing, hcode, e, he, by rw [hbody he]⟩

/-- A pool of a typed transaction without a payload, alone and behind request id seven. -/
theorem encode_eq_layout_pool :
    Kind.pooledTransactions.isRaw = false ∧
      encode ⟨.pooledTransactions, [.typed 1 []]⟩ = .ok [0xC1, 0x01] ∧
      layout? ⟨.pooledTransactions, [.typed 1 []]⟩ = some (.list [.bytes [1]]) ∧
      [0xC1, 0x01] = (Value.list [.bytes [1]]).encode ∧
      Version.eth66.encode ⟨some ⟨7, by decide⟩, ⟨.pooledTransactions, [.typed 1 []]⟩⟩ =
        .ok (0x0a, (Layout.withId ⟨7, by decide⟩ (.list [.bytes [1]])).encode) := by
  have hencode : encode ⟨.pooledTransactions, [.typed 1 []]⟩ = .ok [0xC1, 0x01] := rfl
  rcases encode_eq_layout ⟨.pooledTransactions, [.typed 1 []]⟩ rfl with
    ⟨value, hlayout, hbytes, hframed⟩
  cases hlayout
  refine ⟨rfl, hencode, rfl, hbytes _ hencode, ?_⟩
  exact (hframed .eth66 ⟨7, by decide⟩ _ _).mpr ⟨rfl, ⟨_, hencode⟩, rfl, rfl⟩

end Message
end ChainWire
