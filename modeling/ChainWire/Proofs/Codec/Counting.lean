import ChainWire.Proofs.Codec.Record

/-!
# Counting fields

A record is read field by field, and every field is an item.  So the first
fields of a record are read as they would be in front of the others, and what
is missed is the next one; and all fields of a record leave alone whatever
follows them, which is then one thing too many, however it looks.  Both are the
same fault of the record, never a fault of the bytes at the end.
-/

namespace ChainWire

open Header (payloadLimit)

/--
Payloads with the wrong number of fields: of the items of a record only those
in front, fewer than there must be, or as many as there can be and more bytes
behind them.
-/
inductive Miscounted (fewest most : Nat) (parts : List Bytes) : Bytes -> Prop where
  | missing {k : Nat} (hk : k < fewest) : Miscounted fewest most parts (parts.take k).flatten
  | beyond {more : Bytes} (hmost : parts.length = most) (hmore : more ≠ []) :
      Miscounted fewest most parts (parts.flatten ++ more)

theorem Outcome.cons_eq_map_ok {ε α : Type} {y : Except ε α} {ys : List (Except ε α)}
    {xs : List α} :
    y :: ys = xs.map .ok <-> exists x rest, xs = x :: rest ∧ y = .ok x ∧ ys = rest.map .ok := by
  rw [eq_comm, List.map_eq_cons_iff]
  simp only [eq_comm]

theorem Outcome.singleton_eq_map_ok {ε α : Type} {y : Except ε α} {xs : List α} :
    [y] = xs.map .ok <-> exists x, xs = [x] ∧ y = .ok x := by
  rw [eq_comm, List.map_eq_singleton_iff]
  simp only [eq_comm]

namespace Fields

section Counting

variable {α β : Type} {c : Codec α} {g : Fields β} {fewest most : Nat}

/--
The fields of `x` are the items, and reading counts them: where one is missing
it fails for that, and with nothing missing it takes the fields and no more.
-/
structure CountedAt (f : Fields α) (fewest most : Nat) (x : α)
    (items : List (Except EncodeFault Bytes)) : Prop where
  fewest_le : fewest <= items.length
  le_most : items.length <= most
  encode_eq_ok : forall {b : Bytes},
    f.encode x = .ok b <-> exists parts : List Bytes, items = parts.map .ok ∧ b = parts.flatten
  isWhole : forall {parts : List Bytes}, items = parts.map .ok ->
    parts.flatten.length < payloadLimit -> forall e, e ∈ parts -> Item.IsWhole e
  missing : forall {parts : List Bytes} {k : Nat}, items = parts.map .ok -> k < fewest ->
    (parts.take k).flatten.length < payloadLimit -> forall item,
      f.decode item (parts.take k).flatten = .fail (.fieldCountMismatch item) []
  beyond : forall {parts : List Bytes}, items = parts.map .ok -> parts.length = most ->
    parts.flatten.length < payloadLimit -> forall item more,
      f.decode item (parts.flatten ++ more) = .ok x more

theorem field_append {x : α} (hc : c.decode.ItemWise) (hx : c.RoundTripsAt x) {e : Bytes}
    (he : c.encode x = .ok e) (hlength : e.length < payloadLimit) (item : String)
    (more : Bytes) : Decoder.field item c.decode (e ++ more) = .ok x more := by
  rcases hx.isWhole he hlength with ⟨hwhole, hread⟩
  exact hc.field_append item hwhole hread more

namespace CountedAt

theorem one {x : α} (hc : c.decode.ItemWise) (hx : c.RoundTripsAt x) :
    (one c).CountedAt 1 1 x [c.encode x] where
  fewest_le := Nat.le_refl 1
  le_most := Nat.le_refl 1
  encode_eq_ok := by
    intro b
    constructor
    · intro hb
      exact ⟨[b], congrArg (fun e => [e]) hb, List.flatten_singleton.symm⟩
    · rintro ⟨parts, hitems, rfl⟩
      rcases Outcome.singleton_eq_map_ok.mp hitems with ⟨e, rfl, he⟩
      rw [List.flatten_singleton]
      exact he
  isWhole := by
    intro parts hitems hlength p hp
    rcases Outcome.singleton_eq_map_ok.mp hitems with ⟨e, rfl, he⟩
    rw [List.flatten_singleton] at hlength
    rw [List.mem_singleton.mp hp]
    exact (hx.isWhole he hlength).1
  missing := by
    intro parts k _ hk _ item
    cases Nat.lt_one_iff.mp hk
    rfl
  beyond := by
    intro parts hitems _ hlength item more
    rcases Outcome.singleton_eq_map_ok.mp hitems with ⟨e, rfl, he⟩
    rw [List.flatten_singleton] at hlength ⊢
    exact field_append hc hx he hlength item more

/-- An absent field is no item, so nothing can be read behind it. -/
theorem optional (hc : c.Lawful) (x : Option α) :
    (optional c).CountedAt 0 1 x (x.toList.map c.encode) where
  fewest_le := Nat.zero_le _
  le_most := by
    cases x <;> simp
  encode_eq_ok := by
    intro b
    cases x with
    | none =>
        constructor
        · intro hb
          cases hb
          exact ⟨[], rfl, rfl⟩
        · rintro ⟨parts, hitems, rfl⟩
          cases List.map_eq_nil_iff.mp hitems.symm
          rfl
    | some x =>
        exact (one hc.itemWise (hc.roundTrips x)).encode_eq_ok
  isWhole := by
    intro parts hitems hlength
    cases x with
    | none =>
        cases List.map_eq_nil_iff.mp hitems.symm
        intro p hp
        cases hp
    | some x =>
        exact (one hc.itemWise (hc.roundTrips x)).isWhole hitems hlength
  missing := by
    intro parts k _ hk
    exact absurd hk (Nat.not_lt_zero k)
  beyond := by
    intro parts hitems hmost hlength item more
    cases x with
    | none =>
        cases List.map_eq_nil_iff.mp hitems.symm
        cases hmost
    | some x =>
        rcases Outcome.singleton_eq_map_ok.mp hitems with ⟨e, rfl, he⟩
        rw [List.flatten_singleton] at hlength ⊢
        rcases (hc.roundTrips x).isWhole he hlength with ⟨hwhole, hread⟩
        have happend := hc.itemWise.append_of_eq_ok hwhole hread more
        simp [Fields.optional, Decoder.optionalField, hwhole.ne_nil, happend]

theorem cons {x : α} {y : β} {items : List (Except EncodeFault Bytes)}
    (hc : c.decode.ItemWise) (hx : c.RoundTripsAt x) (hg : g.CountedAt fewest most y items) :
    (cons c g).CountedAt (fewest + 1) (most + 1) (x, y) (c.encode x :: items) where
  fewest_le := Nat.succ_le_succ hg.fewest_le
  le_most := Nat.succ_le_succ hg.le_most
  encode_eq_ok := by
    intro b
    rw [Fields.cons, and_encode_eq_ok]
    constructor
    · rintro ⟨first, second, hfirst, hsecond, rfl⟩
      rcases hg.encode_eq_ok.mp hsecond with ⟨parts, hparts, rfl⟩
      exact ⟨first :: parts, Outcome.cons_eq_map_ok.mpr ⟨first, parts, rfl, hfirst, hparts⟩,
        List.flatten_cons.symm⟩
    · rintro ⟨parts, hitems, rfl⟩
      rcases Outcome.cons_eq_map_ok.mp hitems with ⟨first, rest, rfl, hfirst, hrest⟩
      exact ⟨first, rest.flatten, hfirst, hg.encode_eq_ok.mpr ⟨rest, hrest, rfl⟩,
        List.flatten_cons⟩
  isWhole := by
    intro parts hitems hlength
    rcases Outcome.cons_eq_map_ok.mp hitems with ⟨first, rest, rfl, hfirst, hrest⟩
    rw [List.flatten_cons, List.length_append] at hlength
    refine List.forall_mem_cons.mpr ⟨?_, ?_⟩
    · exact (hx.isWhole hfirst (by omega)).1
    · exact hg.isWhole hrest (by omega)
  missing := by
    intro parts k hitems hk hlength item
    rcases Outcome.cons_eq_map_ok.mp hitems with ⟨first, rest, rfl, hfirst, hrest⟩
    -- With no field left the first one is missing; else it is there, and one of the others is not.
    cases k with
    | zero =>
        rfl
    | succ k =>
        rw [List.take_succ_cons, List.flatten_cons, List.length_append] at hlength
        rw [List.take_succ_cons, List.flatten_cons]
        show (Decoder.field item c.decode _).andThen _ = _
        rw [field_append hc hx hfirst (by omega), Read.andThen_ok,
          hg.missing hrest (Nat.lt_of_succ_lt_succ hk) (by omega), Read.map_fail]
  beyond := by
    intro parts hitems hmost hlength item more
    rcases Outcome.cons_eq_map_ok.mp hitems with ⟨first, rest, rfl, hfirst, hrest⟩
    rw [List.flatten_cons, List.length_append] at hlength
    rw [List.flatten_cons, List.append_assoc]
    show (Decoder.field item c.decode _).andThen _ = _
    rw [field_append hc hx hfirst (by omega), Read.andThen_ok,
      hg.beyond hrest (Nat.succ.inj hmost) (by omega), Read.map_ok]

end CountedAt

def Counted (f : Fields α) (fewest most : Nat)
    (items : α -> List (Except EncodeFault Bytes)) : Prop :=
  forall x, f.CountedAt fewest most x (items x)

namespace Counted

theorem one (hc : c.Strict) : (one c).Counted 1 1 fun x => [c.encode x] :=
  fun x => .one hc.itemWise (hc.roundTrips x)

theorem optional (hc : c.Strict) :
    (optional c).Counted 0 1 fun x => x.toList.map c.encode :=
  CountedAt.optional hc.toLawful

theorem cons {items : β -> List (Except EncodeFault Bytes)} (hc : c.Strict)
    (hg : g.Counted fewest most items) :
    (cons c g).Counted (fewest + 1) (most + 1) fun p => c.encode p.1 :: items p.2 :=
  fun p => .cons hc.itemWise (hc.roundTrips p.1) (hg p.2)

end Counted
end Counting
end Fields

namespace Codec

section Counting

variable {α β : Type} {fewest most : Nat} {item : String}

/-- The items of `x` are its fields, and for a wrong number of them the record is refused. -/
structure CountsAt (c : Codec α) (item : String) (fewest most : Nat) (x : α)
    (items : List (Except EncodeFault Bytes)) : Prop where
  fewest_le : fewest <= items.length
  le_most : items.length <= most
  encode_eq_ok : forall {e : Bytes},
    c.encode x = .ok e <->
      exists parts : List Bytes, items = parts.map .ok ∧ e = Item.ofPayload parts.flatten
  isListOf : forall {parts : List Bytes}, items = parts.map .ok ->
    parts.flatten.length < payloadLimit -> Item.IsListOf parts (Item.ofPayload parts.flatten)
  refuses : forall {parts : List Bytes} {payload : Bytes}, items = parts.map .ok ->
    Miscounted fewest most parts payload -> payload.length < payloadLimit -> forall rest,
      c.decode (Item.ofPayload payload ++ rest) = .fail (.fieldCountMismatch item) rest

theorem CountsAt.record {f : Fields α} {x : α} {items : List (Except EncodeFault Bytes)}
    (hf : f.CountedAt fewest most x items) :
    (record item f).CountsAt item fewest most x items where
  fewest_le := hf.fewest_le
  le_most := hf.le_most
  encode_eq_ok := by
    intro e
    rw [record_encode_eq_ok]
    constructor
    · rintro ⟨payload, hpayload, rfl⟩
      rcases hf.encode_eq_ok.mp hpayload with ⟨parts, hparts, rfl⟩
      exact ⟨parts, hparts, rfl⟩
    · rintro ⟨parts, hparts, rfl⟩
      exact ⟨parts.flatten, hf.encode_eq_ok.mpr ⟨parts, hparts, rfl⟩, rfl⟩
  isListOf := by
    intro parts hitems hlimit
    exact ⟨rfl, hlimit, hf.isWhole hitems hlimit⟩
  refuses := by
    intro parts payload hitems hpayload hlimit rest
    cases hpayload with
    | missing hk =>
        exact Decoder.record_ofPayload_append_fault item hlimit
          (hf.missing hitems hk hlimit item) rest
    | @beyond more hmost hmore =>
        have hparts : parts.flatten.length < payloadLimit := by
          rw [List.length_append] at hlimit
          omega
        -- All fields are read before anything is amiss, and the rest is what is too much.
        have hfields := hf.beyond hitems hmost hparts item more
        show (Item.payload _).andThen _ = _
        rw [Item.payload_ofPayload_append hlimit, Read.andThen_ok, hfields]
        simp [Decoder.noMoreFields, hmore]

theorem CountsAt.through {c : Codec α} {view : β -> α} {build : α -> β} {y : β}
    {items : List (Except EncodeFault Bytes)} (hc : c.CountsAt item fewest most (view y) items) :
    (c.through view build).CountsAt item fewest most y items where
  fewest_le := hc.fewest_le
  le_most := hc.le_most
  encode_eq_ok := hc.encode_eq_ok
  isListOf := hc.isListOf
  refuses := by
    intro parts payload hitems hpayload hlimit rest
    show (c.decode _).map build = _
    rw [hc.refuses hitems hpayload hlimit, Read.map_fail]

def Counts (c : Codec α) (item : String) (fewest most : Nat)
    (items : α -> List (Except EncodeFault Bytes)) : Prop :=
  forall x, c.CountsAt item fewest most x (items x)

theorem Counts.record {f : Fields α} {items : α -> List (Except EncodeFault Bytes)}
    (hf : f.Counted fewest most items) : (record item f).Counts item fewest most items :=
  fun x => .record (hf x)

theorem Counts.through {c : Codec α} {view : β -> α} {build : α -> β}
    {items : α -> List (Except EncodeFault Bytes)} (hc : c.Counts item fewest most items) :
    (c.through view build).Counts item fewest most fun y => items (view y) :=
  fun y => .through (hc (view y))

end Counting
end Codec
end ChainWire
