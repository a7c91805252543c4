import ChainWire.Proofs.Message.Framing

/-!
# Reading written packets

Every packet that a version can write is read back from what is written, as
long as lengths stay below the limit of readers.  A reader that knows the kind
reads every packet.  One that is told the code reads the kinds with all their
items; one that relays reads the kinds that it would choose itself.
-/

namespace ChainWire

open Header (payloadLimit)

namespace Kind

theorem materialized_of_not_raw {k : Kind} (h : k.isRaw = false) : k.materialized = k := by
  cases k with
  | blockBodiesRaw | pooledTransactionsRaw | receiptsRaw =>
      cases h
  | _ =>
      rfl

theorem relayed_of_raw {k : Kind} (h : k.isRaw = true) : k.relayed = k := by
  cases k with
  | blockBodiesRaw | pooledTransactionsRaw | receiptsRaw =>
      rfl
  | _ =>
      cases h

theorem relayed_materialized {k : Kind} (h : k.relayed = k) : k.materialized.relayed = k := by
  cases k with
  | blockBodies | pooledTransactions | receipts =>
      cases h
  | _ =>
      rfl

end Kind

namespace Version

theorem decodeAs_of_encode {v : Version} {p : Packet} {code : Nat} {b : Bytes}
    (hitems : p.message.WellFormed) (hencode : v.encode p = .ok (code, b))
    (hlength : b.length < payloadLimit) : v.decodeAs p.kind b = .ok p := by
  rcases encode_eq_ok_iff.mp hencode with ⟨f, e, hframing, he, hlays, _⟩
  have hbody := Message.isWhole_of_encode hitems he
    (Nat.lt_of_le_of_lt hlays.length_le hlength)
  have hb := hlays.isWhole hbody.1 hlength
  exact decodeAs_eq_ok_iff.mpr ⟨f, hframing, Framing.decode_of_lays hlays hb hbody.1 hbody.2⟩

/--
What is written is read back by the kind.  It is read back by the code if all
items are to be read, and by a relay if relays read this very kind.
-/
theorem decode_of_encode {v : Version} {p : Packet} {code : Nat} {b : Bytes}
    (hitems : p.message.WellFormed) (hencode : v.encode p = .ok (code, b))
    (hlength : b.length < payloadLimit) :
    v.decodeAs p.kind b = .ok p ∧
      (p.kind.isRaw = false -> v.decode code b = .ok p) ∧
      (p.kind.relayed = p.kind -> v.decodeRelay code b = .ok p) := by
  have hread := decodeAs_of_encode hitems hencode hlength
  rcases encode_eq_ok_iff.mp hencode with ⟨f, _, hframing, _, _, rfl⟩
  have hsupports := (framing_eq_some_iff.mp hframing).1
  refine ⟨hread, ?_, ?_⟩
  · intro hraw
    rw [decode_code hsupports, Kind.materialized_of_not_raw hraw]
    exact hread
  · intro hrelayed
    rw [decodeRelay_code hsupports, Kind.relayed_materialized hrelayed]
    exact hread

/-- An unread block body behind a request id, and a typed transaction without a payload. -/
theorem decode_of_encode_short :
    (eth66.encode ⟨some ⟨7, by decide⟩, ⟨.blockBodiesRaw, [⟨[0xC2, 0xC0, 0xC0]⟩]⟩⟩ =
        .ok (0x06, [0xC5, 0x07, 0xC3, 0xC2, 0xC0, 0xC0]) ∧
      eth66.decodeRelay 0x06 [0xC5, 0x07, 0xC3, 0xC2, 0xC0, 0xC0] =
        .ok ⟨some ⟨7, by decide⟩, ⟨.blockBodiesRaw, [⟨[0xC2, 0xC0, 0xC0]⟩]⟩⟩) ∧
    (eth65.encode ⟨none, ⟨.transactions, [.typed 1 []]⟩⟩ = .ok (0x02, [0xC1, 0x01]) ∧
      eth65.decode 0x02 [0xC1, 0x01] = .ok ⟨none, ⟨.transactions, [.typed 1 []]⟩⟩) := by
  have hraw : eth66.encode ⟨some ⟨7, by decide⟩, ⟨.blockBodiesRaw, [⟨[0xC2, 0xC0, 0xC0]⟩]⟩⟩ =
      .ok (0x06, [0xC5, 0x07, 0xC3, 0xC2, 0xC0, 0xC0]) := by
    have hid : (⟨7, by decide⟩ : RequestId).encode = [0x07] :=
      Uint.encode_of_lt _ (by decide) (by decide)
    exact encode_withId_eq_ok_iff.mpr
      ⟨rfl, rfl, [0xC3, 0xC2, 0xC0, 0xC0], rfl, by rw [hid]; rfl⟩
  have htyped : eth65.encode ⟨none, ⟨.transactions, [.typed 1 []]⟩⟩ =
      .ok (0x02, [0xC1, 0x01]) := rfl
  refine ⟨⟨hraw, ?_⟩, htyped, ?_⟩
  · have hitems : Message.WellFormed ⟨.blockBodiesRaw, [⟨[0xC2, 0xC0, 0xC0]⟩]⟩ := by
      intro r hr
      rw [List.mem_singleton.mp hr]
      rfl
    exact (decode_of_encode hitems hraw (by decide)).2.2 rfl
  · have hitems : Message.WellFormed ⟨.transactions, [.typed 1 []]⟩ := by
      intro r hr
      cases hr
    exact (decode_of_encode hitems htyped (by decide)).2.1 rfl

end Version
end ChainWire
