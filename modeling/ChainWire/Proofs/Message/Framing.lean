import ChainWire.Message.Wire
import ChainWire.Proofs.Message.Body

/-!
# Framings

A framing lays the encoded body of a message out as a payload: as it is, or
behind a request id in a record of two fields.  `Framing.Lays` says how, and
both writing and reading a packet come down to it and to the body.
-/

namespace ChainWire

open Header (payloadLimit)

namespace Framing

/-- The payload that a framing makes of a request id and an encoded body. -/
inductive Lays : Framing -> Option RequestId -> Bytes -> Bytes -> Prop where
  | bare {e : Bytes} : Lays bare none e e
  | withId {id : RequestId} {e : Bytes} :
      Lays withId (some id) e (Item.ofPayload (id.encode ++ e))

theorem Lays.length_le {f : Framing} {id : Option RequestId} {e b : Bytes}
    (h : f.Lays id e b) : e.length <= b.length := by
  cases h with
  | bare =>
      exact Nat.le_refl _
  | @withId id e =>
      have hpayload := Item.length_payload_le_length_wrap true (id.encode ++ e)
      rw [List.length_append] at hpayload
      exact Nat.le_trans (Nat.le_add_left _ _) hpayload

theorem Lays.isWhole {f : Framing} {id : Option RequestId} {e b : Bytes}
    (h : f.Lays id e b) (he : Item.IsWhole e) (hlength : b.length < payloadLimit) :
    Item.IsWhole b := by
  cases h with
  | bare =>
      exact he
  | @withId id e =>
      rw [← Item.wrap_true] at hlength ⊢
      exact Item.isWhole_wrap (Item.isWhole_of_length_lt hlength)

theorem encode_eq_ok_iff {f : Framing} {p : Packet} {b : Bytes} :
    f.encode p = .ok b <-> exists e, p.message.encode = .ok e ∧ f.Lays p.requestId e b := by
  rcases p with ⟨id, m⟩
  constructor
  · intro h
    cases f with
    | bare =>
        cases id with
        | none =>
            exact ⟨b, h, .bare⟩
        | some id =>
            cases h
    | withId =>
        cases id with
        | none =>
            cases h
        | some id =>
            rcases Outcome.bind_eq_ok_iff.mp h with ⟨e, he, hb⟩
            cases hb
            exact ⟨e, he, .withId⟩
  · rintro ⟨e, he, hlays⟩
    cases hlays with
    | bare =>
        exact he
    | withId =>
        exact Outcome.bind_eq_ok_iff.mpr ⟨e, he, rfl⟩

/-- A request id is there if and only if the framing has a place for it. -/
def Fits (f : Framing) (id : Option RequestId) : Prop :=
  f = withId <-> id.isSome = true

theorem fits_iff_exists_lays {f : Framing} {id : Option RequestId} (e : Bytes) :
    f.Fits id <-> exists b, f.Lays id e b := by
  constructor
  · intro h
    cases f with
    | bare =>
        cases id with
        | none =>
            exact ⟨e, .bare⟩
        | some id =>
            cases h.mpr rfl
    | withId =>
        cases id with
        | none =>
            cases h.mp rfl
        | some id =>
            exact ⟨_, .withId⟩
  · rintro ⟨b, hlays⟩
    cases hlays <;> simp [Fits]

theorem encode_eq_error_of_message {f : Framing} {p : Packet} {fault : EncodeFault}
    (hfits : f.Fits p.requestId) (h : p.message.encode = .error fault) :
    f.encode p = .error fault := by
  rcases p with ⟨id, m⟩
  rcases (fits_iff_exists_lays []).mp hfits with ⟨b, hlays⟩
  cases hlays with
  | bare =>
      exact h
  | withId =>
      show (m.encode >>= fun body => _) = _
      rw [h]
      rfl

theorem lays_of_decode {f : Framing} {k : Kind} {b : Bytes} {p : Packet}
    (h : (f.decode k).exact b = .ok p) :
    exists e, Item.IsWhole b ∧ f.Lays p.requestId e b ∧
      Message.decode k e = .ok p.message [] := by
  have hread := Decoder.exact_eq_ok_iff.mp h
  cases f with
  | bare =>
      rcases Read.map_eq_ok hread with ⟨m, hm, rfl⟩
      exact ⟨b, (Message.decode_itemWise k).isWhole_of_eq_ok hm, .bare, hm⟩
  | withId =>
      rcases Decoder.record_eq_ok hread with ⟨payload, rfl, hlimit, hfields⟩
      rcases Read.andThen_eq_ok hfields with ⟨id, rest, hid, hrest⟩
      rcases Read.map_eq_ok hrest with ⟨m, hm, rfl⟩
      have hpayload := Uint.eq_encode_of_decode ((Decoder.field_eq_ok_iff _).mp hid).2
      rcases (Message.decode_itemWise k).field_split hm with ⟨e, _, rfl, he⟩
      rw [List.append_nil, ← Item.wrap_true]
      refine ⟨e, Item.isWhole_wrap hlimit, ?_, he⟩
      rw [hpayload, List.append_nil]
      exact .withId

theorem field_requestId_append (item : String) (id : RequestId) (e : Bytes) :
    Decoder.field item Uint.decode (id.encode ++ e) = .ok id e := by
  -- A request id has eight digits at most, so its own item is far from any limit.
  have hwidth : 8 < payloadLimit := by
    decide
  have hread : Uint.decode id.encode = .ok id [] :=
    (Uint.decode_eq_ok_iff hwidth).mpr (List.append_nil _).symm
  exact Uint.decode_itemWise.field_append item (id.isWhole_encode hwidth) hread e

theorem exact_decode_of_lays {f : Framing} {k : Kind} {id : Option RequestId} {e b : Bytes}
    (h : f.Lays id e b) (hb : Item.IsWhole b) (he : Item.IsWhole e) :
    (f.decode k).exact b = ((Message.decode k).exact e).map (Packet.mk id) := by
  cases h with
  | bare =>
      exact Decoder.exact_map (Packet.mk none) (Message.decode k) e
  | @withId id e =>
      have hlimit : (id.encode ++ e).length < payloadLimit := by
        rw [← Item.wrap_true] at hb
        exact Item.isWhole_wrap_iff.mp hb
      have hfields : ((Decoder.field k.name Uint.decode (id.encode ++ e)).andThen fun id rest =>
          (Decoder.field k.name (Message.decode k) rest).map (Packet.mk (some id))) =
            (Message.decode k e).map (Packet.mk (some id)) := by
        rw [field_requestId_append, Read.andThen_ok, Decoder.field_of_ne_nil he.ne_nil]
      rw [← List.append_nil (Item.ofPayload _)]
      unfold Decoder.exact
      cases hm : Message.decode k e with
      | fail err left =>
          rw [hm] at hfields
          rw [decode, Decoder.record_ofPayload_append_fault k.name hlimit hfields]
          rfl
      | ok m left =>
          have hleft := (Message.decode_itemWise k).exhausts he hm
          subst hleft
          rw [hm] at hfields
          rw [decode, Decoder.record_ofPayload_append k.name hlimit hfields]
          rfl

theorem decode_of_lays {f : Framing} {k : Kind} {id : Option RequestId} {e b : Bytes}
    {m : Message} (h : f.Lays id e b) (hb : Item.IsWhole b) (he : Item.IsWhole e)
    (hm : Message.decode k e = .ok m []) : (f.decode k).exact b = .ok ⟨id, m⟩ := by
  rw [exact_decode_of_lays h hb he, Decoder.exact_eq_ok_iff.mpr hm]
  rfl

end Framing

/-!
## Versions
-/

namespace Version

theorem framing_eq_some_iff {v : Version} {k : Kind} {f : Framing} :
    v.framing k = some f <->
      v.supports k = true ∧ f = if v.wraps k then .withId else .bare := by
  unfold framing
  cases v.supports k with
  | false =>
      simp
  | true =>
      rw [if_pos rfl]
      constructor
      · intro h
        cases h
        exact ⟨rfl, rfl⟩
      · rintro ⟨_, rfl⟩
        rfl

theorem encode_eq_ok_iff {v : Version} {p : Packet} {code : Nat} {b : Bytes} :
    v.encode p = .ok (code, b) <->
      exists f e, v.framing p.kind = some f ∧ p.message.encode = .ok e ∧
        f.Lays p.requestId e b ∧ code = p.kind.code := by
  unfold encode
  cases hframing : v.framing p.kind with
  | none =>
      simp
  | some f =>
      constructor
      · intro h
        rcases Outcome.map_eq_ok_iff.mp h with ⟨b', hb, heq⟩
        cases heq
        rcases Framing.encode_eq_ok_iff.mp hb with ⟨e, he, hlays⟩
        exact ⟨f, e, rfl, he, hlays, rfl⟩
      · rintro ⟨f', e, hf, he, hlays, rfl⟩
        cases hf
        exact Outcome.map_eq_ok_iff.mpr ⟨b, Framing.encode_eq_ok_iff.mpr ⟨e, he, hlays⟩, rfl⟩

theorem encode_withId_eq_ok_iff {v : Version} {id : RequestId} {m : Message} {code : Nat}
    {b : Bytes} :
    v.encode ⟨some id, m⟩ = .ok (code, b) <->
      v.framing m.kind = some .withId ∧ code = m.kind.code ∧
        exists e, m.encode = .ok e ∧ b = Item.ofPayload (id.encode ++ e) := by
  rw [encode_eq_ok_iff]
  constructor
  · rintro ⟨f, e, hframing, he, hlays, hcode⟩
    cases hlays with
    | withId =>
        exact ⟨hframing, hcode, e, he, rfl⟩
  · rintro ⟨hframing, hcode, e, he, rfl⟩
    exact ⟨.withId, e, hframing, he, .withId, hcode⟩

theorem encode_bare_eq_ok_iff {v : Version} {m : Message} {code : Nat} {b : Bytes} :
    v.encode ⟨none, m⟩ = .ok (code, b) <->
      v.framing m.kind = some .bare ∧ code = m.kind.code ∧ m.encode = .ok b := by
  rw [encode_eq_ok_iff]
  constructor
  · rintro ⟨f, e, hframing, he, hlays, hcode⟩
    cases hlays with
    | bare =>
        exact ⟨hframing, hcode, he⟩
  · rintro ⟨hframing, hcode, he⟩
    exact ⟨.bare, b, hframing, he, .bare, hcode⟩

theorem decodeAs_eq_ok_iff {v : Version} {k : Kind} {b : Bytes} {p : Packet} :
    v.decodeAs k b = .ok p <->
      exists f, v.framing k = some f ∧ (f.decode k).exact b = .ok p := by
  unfold decodeAs
  cases v.framing k <;> simp

theorem kindOfCode_eq_ok {v : Version} {code : Nat} {k : Kind} (h : v.kindOfCode code = .ok k) :
    k.isRaw = false ∧ k.code = code ∧ v.supports k = true := by
  unfold kindOfCode at h
  cases hkind : (Kind.ofCode? code).filter v.supports with
  | none =>
      rw [hkind] at h
      cases h
  | some found =>
      rw [hkind] at h
      cases h
      rcases Option.filter_eq_some_iff.mp hkind with ⟨hcode, hsupports⟩
      have hfound := List.find?_some hcode
      simp only [Bool.and_eq_true, Bool.not_eq_true', beq_iff_eq] at hfound
      exact ⟨hfound.1, hfound.2, hsupports⟩

theorem kindOfCode_code {v : Version} {k : Kind} (h : v.supports k = true) :
    v.kindOfCode k.code = .ok k.materialized := by
  have hmaterialized : v.supports k.materialized = true := by
    cases k <;> exact h
  rw [kindOfCode, Kind.ofCode?_code, Option.filter_some, if_pos hmaterialized]

theorem decode_code {v : Version} {k : Kind} (h : v.supports k = true) (b : Bytes) :
    v.decode k.code b = v.decodeAs k.materialized b := by
  rw [decode, kindOfCode_code h]
  rfl

theorem decodeRelay_code {v : Version} {k : Kind} (h : v.supports k = true) (b : Bytes) :
    v.decodeRelay k.code b = v.decodeAs k.materialized.relayed b := by
  rw [decodeRelay, kindOfCode_code h]
  rfl

end Version
end ChainWire
