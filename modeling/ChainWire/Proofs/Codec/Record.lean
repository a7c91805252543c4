import ChainWire.Codec.Record
import ChainWire.Proofs.Codec.Basic

/-!
# The laws of records

Fields obey the laws of codecs up to one difference: they are read from a
payload of their own, so the last field may be told apart by where the payload
ends.  A record of lawful fields is a lawful codec, and the same goes for
strict ones.
-/

namespace ChainWire

open Header (payloadLimit)

namespace Decoder

section Fields

variable {α : Type} {d : Decoder α}

theorem field_eq_ok_iff (item : String) {b rest : Bytes} {x : α} :
    field item d b = .ok x rest <-> b ≠ [] ∧ d b = .ok x rest := by
  unfold field
  cases b with
  | nil =>
      simp
  | cons y ys =>
      simp

theorem field_of_ne_nil {item : String} {b : Bytes} (hb : b ≠ []) : field item d b = d b := by
  simp [field, hb]

theorem ItemWise.field_append (hd : d.ItemWise) (item : String) {e : Bytes} {x : α}
    (he : Item.IsWhole e) (h : d e = .ok x []) (rest : Bytes) :
    field item d (e ++ rest) = .ok x rest := by
  apply (field_eq_ok_iff item).mpr
  constructor
  · intro hnil
    exact he.ne_nil (List.append_eq_nil_iff.mp hnil).1
  · exact hd.append_of_eq_ok he h rest

theorem ItemWise.field_split (hd : d.ItemWise) {item : String} {b rest : Bytes} {x : α}
    (h : field item d b = .ok x rest) :
    exists e, Item.IsWhole e ∧ b = e ++ rest ∧ d e = .ok x [] :=
  hd.split ((field_eq_ok_iff item).mp h).2

/-!
## The list around the fields
-/

theorem record_itemWise (item : String) (fields : Decoder α) : (record item fields).ItemWise := by
  apply ItemWise.payload.andThen
  intro payload
  cases fields payload with
  | fail e left =>
      exact .fail
  | ok x left =>
      dsimp only
      cases noMoreFields item left with
      | ok u more =>
          exact .ok
      | fail e more =>
          exact .fail

theorem record_ofPayload_append (item : String) {fields : Decoder α} {payload : Bytes} {x : α}
    (hlimit : payload.length < payloadLimit) (h : fields payload = .ok x []) (rest : Bytes) :
    record item fields (Item.ofPayload payload ++ rest) = .ok x rest := by
  simp [record, Item.payload_ofPayload_append hlimit, h, noMoreFields]

theorem record_ofPayload_append_fault (item : String) {fields : Decoder α} {payload left : Bytes}
    {e : DecodeFault} (hlimit : payload.length < payloadLimit)
    (h : fields payload = .fail e left) (rest : Bytes) :
    record item fields (Item.ofPayload payload ++ rest) = .fail e rest := by
  simp [record, Item.payload_ofPayload_append hlimit, h]

theorem record_eq_ok {item : String} {fields : Decoder α} {b rest : Bytes} {x : α}
    (h : record item fields b = .ok x rest) :
    exists payload, b = Item.ofPayload payload ++ rest ∧ payload.length < payloadLimit ∧
      fields payload = .ok x [] := by
  rcases Read.andThen_eq_ok h with ⟨payload, left, hpayload, hfields⟩
  rcases Item.eq_ofPayload_of_payload hpayload with ⟨rfl, hlimit⟩
  cases hread : fields payload with
  | fail e tail =>
      rw [hread] at hfields
      cases hfields
  | ok y tail =>
      rw [hread] at hfields
      cases tail with
      | nil =>
          cases hfields
          exact ⟨payload, rfl, hlimit, hread⟩
      | cons z zs =>
          cases hfields

end Fields
end Decoder

/-!
## Fields
-/

namespace Fields

variable {α β : Type}

/-- Written fields are read back, with nothing left of them. -/
structure Lawful (f : Fields α) : Prop where
  roundTrips : forall {x : α} {b : Bytes}, f.encode x = .ok b -> b.length < payloadLimit ->
    forall item, f.decode item b = .ok x []

/-- Besides, no fields are read that would not be written. -/
structure Strict (f : Fields α) : Prop extends Lawful f where
  canonical : forall {item : String} {b : Bytes} {x : α},
    f.decode item b = .ok x [] -> f.encode x = .ok b

theorem and_encode_eq_ok {f : Fields α} {g : Fields β} {x : α} {y : β} {b : Bytes} :
    (f.and g).encode (x, y) = .ok b <->
      exists first second, f.encode x = .ok first ∧ g.encode y = .ok second ∧
        b = first ++ second := by
  constructor
  · intro h
    rcases Outcome.bind_eq_ok_iff.mp h with ⟨first, hfirst, hrest⟩
    rcases Outcome.bind_eq_ok_iff.mp hrest with ⟨second, hsecond, hpure⟩
    cases hpure
    exact ⟨first, second, hfirst, hsecond, rfl⟩
  · rintro ⟨first, second, hfirst, hsecond, rfl⟩
    show (f.encode x >>= fun first => g.encode y >>= fun second => pure (first ++ second)) = _
    rw [hfirst, hsecond]
    rfl

namespace Lawful

theorem one {c : Codec α} (hc : c.Lawful) : (one c).Lawful where
  roundTrips := by
    intro x b hb hlength item
    rcases (hc.roundTrips x).isWhole hb hlength with ⟨hwhole, hread⟩
    have hfield := hc.itemWise.field_append item hwhole hread []
    rwa [List.append_nil] at hfield

theorem optional {c : Codec α} (hc : c.Lawful) : (optional c).Lawful where
  roundTrips := by
    intro x b hb hlength item
    cases x with
    | none =>
        cases hb
        rfl
    | some x =>
        rcases (hc.roundTrips x).isWhole hb hlength with ⟨hwhole, hread⟩
        simp [Fields.optional, Decoder.optionalField, hwhole.ne_nil, hread]

/-- The first field is an item, so it ends where the fields after it begin. -/
theorem cons {c : Codec α} {g : Fields β} (hc : c.Lawful) (hg : g.Lawful) :
    (cons c g).Lawful where
  roundTrips := by
    rintro ⟨x, y⟩ b hb hlength item
    rcases and_encode_eq_ok.mp hb with ⟨first, second, hfirst, hsecond, rfl⟩
    rw [List.length_append] at hlength
    rcases (hc.roundTrips x).isWhole hfirst (by omega) with ⟨hwhole, hread⟩
    have hfield := hc.itemWise.field_append item hwhole hread second
    have htail := hg.roundTrips hsecond (by omega) item
    show (Decoder.field item c.decode _).andThen _ = _
    rw [hfield, Read.andThen_ok, htail, Read.map_ok]

end Lawful

namespace Strict

theorem one {c : Codec α} (hc : c.Strict) : (one c).Strict where
  toLawful := .one hc.toLawful
  canonical := by
    intro item b x h
    exact hc.canonical b x ((Decoder.field_eq_ok_iff item).mp h).2

theorem optional {c : Codec α} (hc : c.Strict) : (optional c).Strict where
  toLawful := .optional hc.toLawful
  canonical := by
    intro item b x h
    cases b with
    | nil =>
        cases h
        rfl
    | cons y ys =>
        rcases Read.map_eq_ok h with ⟨z, hz, rfl⟩
        exact hc.canonical _ z hz

theorem cons {c : Codec α} {g : Fields β} (hc : c.Strict) (hg : g.Strict) :
    (cons c g).Strict where
  toLawful := .cons hc.toLawful hg.toLawful
  canonical := by
    intro item b p h
    rcases Read.andThen_eq_ok h with ⟨x, rest, hfirst, hrest⟩
    rcases Read.map_eq_ok hrest with ⟨y, hsecond, rfl⟩
    rcases hc.itemWise.field_split hfirst with ⟨first, hwhole, rfl, hread⟩
    apply and_encode_eq_ok.mpr
    exact ⟨first, rest, hc.canonical first x hread, hg.canonical hsecond, rfl⟩

end Strict
end Fields

/-!
## Records
-/

namespace Codec

variable {α : Type} {f : Fields α} {item : String}

theorem record_encode_eq_ok (item : String) {x : α} {e : Bytes} :
    (record item f).encode x = .ok e <->
      exists payload, f.encode x = .ok payload ∧ e = Item.ofPayload payload :=
  Outcome.map_eq_ok_iff

theorem Lawful.record (hf : f.Lawful) : (record item f).Lawful where
  itemWise := Decoder.record_itemWise item _
  roundTrips := by
    intro x e he
    rcases (record_encode_eq_ok item).mp he with ⟨payload, hpayload, rfl⟩
    refine ⟨true, payload, rfl, ?_⟩
    intro hlimit
    have hread := Decoder.record_ofPayload_append item hlimit
      (hf.roundTrips hpayload hlimit item) []
    rwa [List.append_nil] at hread

theorem Strict.record (hf : f.Strict) : (record item f).Strict where
  toLawful := .record hf.toLawful
  canonical := by
    intro e x h
    rcases Decoder.record_eq_ok h with ⟨payload, he, _, hread⟩
    rw [List.append_nil] at he
    exact (record_encode_eq_ok item).mpr ⟨payload, hf.canonical hread, he⟩

end Codec
end ChainWire
