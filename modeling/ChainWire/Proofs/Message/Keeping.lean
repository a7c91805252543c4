import ChainWire.Proofs.Message.Prewriting
import ChainWire.Proofs.Message.RoundTrip

/-!
# Relaying what was written

A relay that receives a written message keeps its items unread where it can.
What it keeps are the items as they were written, so a message and its kept
form are interchangeable: both are written to the same bytes, and a reader of
all items makes the message of either.
-/

namespace ChainWire

open Header (payloadLimit)

theorem Message.length_le_of_mem_rawItems {m : Message} {e : Bytes} (he : m.encode = .ok e)
    {r : RawItem} (hr : r ∈ m.rawItems) : r.bytes.length <= e.length := by
  have hlist {raws : List RawItem} (hmem : r ∈ raws)
      (hraws : (Codec.list .raw).encode raws = .ok e) : r.bytes.length <= e.length := by
    rw [Codec.list_raw_encode] at hraws
    cases hraws
    exact Nat.le_trans (RawItem.length_le_of_mem hmem) (Item.length_payload_le_length_wrap true _)
  rcases m with ⟨k, body⟩
  cases k with
  | blockBodiesRaw | pooledTransactionsRaw | receiptsRaw =>
      exact hlist hr he
  | _ =>
      cases hr

namespace Relayable

variable {r : Relayable} {xs : List r.Item} {raws : List RawItem}

theorem item_lawful (r : Relayable) : r.item.Lawful := by
  cases r with
  | blockBodies =>
      exact Codec.blockBody_strict.toLawful
  | pooledTransactions =>
      exact Codec.transaction_strict.toLawful
  | receipts =>
      exact Codec.receipt_lawful.list

theorem Prewritten.isWhole (h : r.Prewritten xs raws) :
    forall raw, raw ∈ raws -> raw.bytes.length < payloadLimit -> Item.IsWhole raw.bytes := by
  induction h with
  | nil =>
      intro raw hraw
      cases hraw
  | @cons x first xs raws hx _ ih =>
      intro raw hraw hlength
      cases hraw with
      | head =>
          have hbytes := RawItem.ofTyped_eq_ok_iff.mp hx
          exact ((r.item_lawful.roundTrips x).isWhole hbytes hlength).1
      | tail _ htail =>
          exact ih raw htail hlength

theorem Prewritten.wellFormed (h : r.Prewritten xs raws) {e : Bytes}
    (he : (r.unread raws).encode = .ok e) (hlength : e.length < payloadLimit) :
    (r.unread raws).WellFormed := by
  have hitems : (r.unread raws).rawItems = raws := by
    cases r <;> rfl
  intro raw hraw
  have hshort : raw.bytes.length < payloadLimit :=
    Nat.lt_of_le_of_lt (Message.length_le_of_mem_rawItems he hraw) hlength
  rw [hitems] at hraw
  exact (RawItem.wellFormed_iff_isWhole raw).mpr (h.isWhole raw hraw hshort)

end Relayable

/-!
## Messages
-/

namespace Message

theorem wellFormed_of_not_raw {m : Message} (hraw : m.kind.isRaw = false) : m.WellFormed := by
  rcases m with ⟨k, body⟩
  intro r hr
  cases k with
  | blockBodiesRaw | pooledTransactionsRaw | receiptsRaw =>
      cases hraw
  | _ =>
      cases hr

/-- The form in which a relay has the message: with its items as they are written, if it is a
response whose items can be kept, and else as it is. -/
def KeptAs (m kept : Message) : Prop :=
  ((forall r : Relayable, r.kind ≠ m.kind) ∧ kept = m) ∨
    exists (r : Relayable) (xs : List r.Item) (raws : List RawItem),
      m = r.message xs ∧ kept = r.unread raws ∧ r.Prewritten xs raws

theorem KeptAs.encode_eq {m kept : Message} (h : m.KeptAs kept) : m.encode = kept.encode := by
  rcases h with ⟨_, rfl⟩ | ⟨r, xs, raws, rfl, rfl, hraws⟩
  · rfl
  · exact hraws.encode_eq

theorem KeptAs.kind_eq {m kept : Message} (h : m.KeptAs kept) : kept.kind = m.kind.relayed := by
  rcases h with ⟨hkind, rfl⟩ | ⟨r, xs, raws, rfl, rfl, _⟩
  · exact (Relayable.relayed_eq_self_iff.mpr hkind).symm
  · simp

theorem exists_keptAs {m : Message} {e : Bytes} (h : m.encode = .ok e) :
    exists kept, m.KeptAs kept := by
  by_cases hnone : forall r : Relayable, r.kind ≠ m.kind
  · exact ⟨m, Or.inl ⟨hnone, rfl⟩⟩
  · rcases not_forall_not.mp hnone with ⟨r, hkind⟩
    rcases m with ⟨k, body⟩
    subst hkind
    have hmessage : exists xs, (⟨r.kind, body⟩ : Message) = r.message xs := by
      cases r <;> exact ⟨body, rfl⟩
    rcases hmessage with ⟨xs, hxs⟩
    rw [hxs] at h
    rcases Relayable.exists_prewritten h with ⟨raws, hraws⟩
    exact ⟨r.unread raws, Or.inr ⟨r, xs, raws, hxs, rfl, hraws⟩⟩

theorem KeptAs.wellFormed {m kept : Message} (h : m.KeptAs kept) (hraw : m.kind.isRaw = false)
    {e : Bytes} (he : m.encode = .ok e) (hlength : e.length < payloadLimit) :
    kept.WellFormed := by
  have hkept := h.encode_eq
  rcases h with ⟨_, rfl⟩ | ⟨r, xs, raws, rfl, rfl, hraws⟩
  · exact wellFormed_of_not_raw hraw
  · rw [hkept] at he
    exact hraws.wellFormed he hlength

end Message

/-!
## Versions
-/

namespace Version

variable {v : Version} {p : Packet} {code : Nat} {b : Bytes}

theorem encode_keptAs {id : Option RequestId} {m kept : Message} (h : m.KeptAs kept) :
    v.encode ⟨id, kept⟩ = .ok (code, b) <-> v.encode ⟨id, m⟩ = .ok (code, b) := by
  rcases h with ⟨_, rfl⟩ | ⟨r, xs, raws, rfl, rfl, hraws⟩
  · exact Iff.rfl
  · exact (encode_prewritten_iff hraws (code, b)).symm

theorem decode_eq_of_encode (hraw : p.kind.isRaw = false)
    (hencode : v.encode p = .ok (code, b)) (hlength : b.length < payloadLimit) :
    v.decode code b = .ok p := by
  rcases encode_eq_ok_iff.mp hencode with ⟨f, _, hframing, _, _, rfl⟩
  rw [decode_code (framing_eq_some_iff.mp hframing).1, Kind.materialized_of_not_raw hraw]
  exact decodeAs_of_encode (Message.wellFormed_of_not_raw hraw) hencode hlength

theorem decodeRelay_eq_of_encode (hraw : p.kind.isRaw = false)
    (hencode : v.encode p = .ok (code, b)) (hlength : b.length < payloadLimit) :
    exists kept, p.message.KeptAs kept ∧ v.decodeRelay code b = .ok ⟨p.requestId, kept⟩ := by
  rcases encode_eq_ok_iff.mp hencode with ⟨f, e, hframing, he, hlays, rfl⟩
  rcases Message.exists_keptAs he with ⟨kept, hkept⟩
  have hitems := hkept.wellFormed hraw he (Nat.lt_of_le_of_lt hlays.length_le hlength)
  have hread := decodeAs_of_encode (p := ⟨p.requestId, kept⟩) hitems
    ((encode_keptAs hkept).mpr hencode) hlength
  refine ⟨kept, hkept, ?_⟩
  rw [decodeRelay_code (framing_eq_some_iff.mp hframing).1, Kind.materialized_of_not_raw hraw]
  rw [Packet.kind, hkept.kind_eq] at hread
  exact hread

end Version
end ChainWire
