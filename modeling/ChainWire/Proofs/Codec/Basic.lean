import ChainWire.Codec
import ChainWire.Proofs.Reading
import Mathlib.Data.List.Forall2

/-!
# Lawful codecs

A codec is lawful if it reads item by item and gives back what was written.  It
is strict if, the other way round, everything it reads would be written as it
was received.  Both laws are about an item by itself; that decoders take items
one at a time carries them over to items with more bytes behind them.

Codecs of lists and codecs that go through another type inherit both laws.
-/

namespace ChainWire

/-!
## Outcomes
-/

namespace Outcome

variable {ε α β : Type} {x : Except ε α}

theorem bind_eq_ok_iff {f : α -> Except ε β} {y : β} :
    x >>= f = .ok y <-> exists a, x = .ok a ∧ f a = .ok y := by
  cases x <;> simp [Bind.bind, Except.bind]

theorem map_eq_ok_iff {f : α -> β} {y : β} :
    x.map f = .ok y <-> exists a, x = .ok a ∧ y = f a := by
  cases x <;> simp [Except.map, eq_comm]

theorem mapM_cons_ok {f : α -> Except ε β} {a : α} {y : β} (ha : f a = .ok y) (as : List α) :
    (a :: as).mapM f = (as.mapM f).map (fun ys => y :: ys) := by
  rw [List.mapM_cons, ha]
  cases as.mapM f <;> rfl

theorem mapM_cons_error {f : α -> Except ε β} {a : α} {e : ε} (ha : f a = .error e)
    (as : List α) : (a :: as).mapM f = .error e := by
  rw [List.mapM_cons, ha]
  rfl

theorem mapM_eq_ok_iff {f : α -> Except ε β} {as : List α} {ys : List β} :
    as.mapM f = .ok ys <-> List.Forall₂ (fun a y => f a = .ok y) as ys := by
  induction as generalizing ys with
  | nil =>
      rw [List.mapM_nil, List.forall₂_nil_left_iff]
      constructor
      · intro h
        cases h
        rfl
      · rintro rfl
        rfl
  | cons a as ih =>
      rw [List.forall₂_cons_left_iff]
      cases ha : f a with
      | error e =>
          rw [mapM_cons_error ha]
          simp
      | ok y =>
          rw [mapM_cons_ok ha, map_eq_ok_iff]
          constructor
          · rintro ⟨ys, hys, rfl⟩
            exact ⟨y, ys, rfl, ih.mp hys, rfl⟩
          · rintro ⟨z, ys, hz, hys, rfl⟩
            cases hz
            exact ⟨ys, ih.mpr hys, rfl⟩

theorem mapM_eq_error_of_first {f : α -> Except ε β} {before after : List α} {a : α} {e : ε}
    (hbefore : forall a, a ∈ before -> exists y, f a = .ok y) (ha : f a = .error e) :
    (before ++ a :: after).mapM f = .error e := by
  induction before with
  | nil =>
      exact mapM_cons_error ha after
  | cons b before ih =>
      rcases hbefore b (by simp) with ⟨y, hy⟩
      rw [List.cons_append, mapM_cons_ok hy, ih fun c hc => hbefore c (by simp [hc])]
      rfl

end Outcome

namespace Codec

open Header (payloadLimit)

section Laws

variable {α β : Type}

/-- What is written is an item, and reading this item gives the value back. -/
def RoundTripsAt (c : Codec α) (x : α) : Prop :=
  forall e, c.encode x = .ok e ->
    exists (isList : Bool) (payload : Bytes), e = Item.wrap isList payload ∧
      (payload.length < payloadLimit -> c.decode e = .ok x [])

/-- Whatever is read from the item would be written as this item. -/
def CanonicalAt (c : Codec α) (e : Bytes) : Prop :=
  forall x, c.decode e = .ok x [] -> c.encode x = .ok e

/-- Items are read one at a time, and written values are read back. -/
structure Lawful (c : Codec α) : Prop where
  itemWise : c.decode.ItemWise
  roundTrips : forall x, c.RoundTripsAt x

/-- Besides, no item is read that would not be written. -/
structure Strict (c : Codec α) : Prop extends Lawful c where
  canonical : forall e, c.CanonicalAt e

theorem RoundTripsAt.decode_eq_ok {c : Codec α} {x : α} (hx : c.RoundTripsAt x) {e : Bytes}
    (he : c.encode x = .ok e) (hwhole : Item.IsWhole e) : c.decode e = .ok x [] := by
  rcases hx e he with ⟨isList, payload, rfl, hread⟩
  exact hread (Item.isWhole_wrap_iff.mp hwhole)

theorem RoundTripsAt.isWhole {c : Codec α} {x : α} (hx : c.RoundTripsAt x) {e : Bytes}
    (he : c.encode x = .ok e) (hlength : e.length < payloadLimit) :
    Item.IsWhole e ∧ c.decode e = .ok x [] := by
  rcases hx e he with ⟨isList, payload, rfl, hread⟩
  have hlimit := Item.isWhole_of_length_lt hlength
  exact ⟨Item.isWhole_wrap hlimit, hread hlimit⟩

theorem Strict.decode_eq_ok_iff {c : Codec α} (hc : c.Strict) {b rest : Bytes} {x : α} :
    c.decode b = .ok x rest <->
      exists e, c.encode x = .ok e ∧ Item.IsWhole e ∧ b = e ++ rest := by
  constructor
  · intro h
    rcases hc.itemWise.split h with ⟨e, hwhole, rfl, hread⟩
    exact ⟨e, hc.canonical e x hread, hwhole, rfl⟩
  · rintro ⟨e, he, hwhole, rfl⟩
    exact hc.itemWise.append_of_eq_ok hwhole ((hc.roundTrips x).decode_eq_ok he hwhole) rest

/-!
## Going through another type
-/

theorem RoundTripsAt.through {c : Codec α} {view : β -> α} {build : α -> β} {y : β}
    (hy : c.RoundTripsAt (view y)) (hbuild : build (view y) = y) :
    (c.through view build).RoundTripsAt y := by
  intro e he
  rcases hy e he with ⟨isList, payload, rfl, hread⟩
  refine ⟨isList, payload, rfl, fun hlimit => ?_⟩
  show (c.decode _).map build = _
  rw [hread hlimit, Read.map_ok, hbuild]

theorem Lawful.through {c : Codec α} {view : β -> α} {build : α -> β} (hc : c.Lawful)
    (hbuild : forall y, build (view y) = y) : (c.through view build).Lawful where
  itemWise := hc.itemWise.map build
  roundTrips y := (hc.roundTrips (view y)).through (hbuild y)

theorem Strict.through {c : Codec α} {view : β -> α} {build : α -> β} (hc : c.Strict)
    (hbuild : forall y, build (view y) = y) (hview : forall x, view (build x) = x) :
    (c.through view build).Strict where
  toLawful := hc.toLawful.through hbuild
  canonical := by
    intro e y hy
    rcases Read.map_eq_ok hy with ⟨x, hx, rfl⟩
    show c.encode (view (build x)) = _
    rw [hview]
    exact hc.canonical e x hx

/-!
## Codecs of single byte strings
-/

/-- A codec that travels as a byte string is strict if reading inverts the view it writes. -/
theorem Strict.of_string {c : Codec α} (view : α -> Bytes) {parse : Bytes -> Bytes -> Read α}
    (hencode : forall x, c.encode x = .ok (Item.ofString (view x)))
    (hdecode : forall b, c.decode b = (Item.string b).andThen parse)
    (huniform : forall data, Read.Uniform (parse data))
    (hparse : forall x, parse (view x) [] = .ok x [])
    (hview : forall data x, parse data [] = .ok x [] -> view x = data) : c.Strict where
  itemWise := by
    rw [funext hdecode]
    exact Decoder.ItemWise.string.andThen huniform
  roundTrips := by
    intro x e he
    rw [hencode] at he
    cases he
    refine ⟨false, view x, rfl, fun hlimit => ?_⟩
    rw [hdecode, Item.string_ofString hlimit]
    exact hparse x
  canonical := by
    intro e x h
    rw [hdecode] at h
    rcases Read.andThen_eq_ok h with ⟨data, left, hstring, hread⟩
    have hleft := (huniform data).eq_ok hread
    subst hleft
    have he := (Item.eq_ofString_of_string hstring).1
    rw [List.append_nil] at he
    rw [hencode, hview data x hread, he]

/-!
## Lists
-/

theorem encodeAll_cons_eq_ok {c : Codec α} {x : α} {xs : List α} {b : Bytes} :
    c.encodeAll (x :: xs) = .ok b <->
      exists e tail, c.encode x = .ok e ∧ c.encodeAll xs = .ok tail ∧ b = e ++ tail := by
  unfold encodeAll
  rw [List.mapM_cons]
  constructor
  · intro h
    rcases Outcome.map_eq_ok_iff.mp h with ⟨all, hall, rfl⟩
    rcases Outcome.bind_eq_ok_iff.mp hall with ⟨e, he, htail⟩
    rcases Outcome.bind_eq_ok_iff.mp htail with ⟨es, hes, hpure⟩
    cases hpure
    exact ⟨e, es.flatten, he, Outcome.map_eq_ok_iff.mpr ⟨es, hes, rfl⟩, List.flatten_cons⟩
  · rintro ⟨e, tail, he, htail, rfl⟩
    rcases Outcome.map_eq_ok_iff.mp htail with ⟨es, hes, rfl⟩
    rw [he, hes]
    exact congrArg Except.ok List.flatten_cons

theorem list_itemWise (c : Codec α) : (list c).decode.ItemWise :=
  Decoder.ItemWise.payload.andThen fun payload => by
    cases c.decode.items payload with
    | ok xs left =>
        exact .ok
    | fail e left =>
        exact .fail

theorem list_decode_eq_ok_iff {c : Codec α} (hc : c.decode.ItemWise) {b rest : Bytes}
    {xs : List α} :
    (list c).decode b = .ok xs rest <->
      exists payload, b = Item.ofPayload payload ++ rest ∧ payload.length < payloadLimit ∧
        Decoder.Run c.decode payload xs := by
  constructor
  · intro h
    rcases Read.andThen_eq_ok h with ⟨payload, left, hpayload, hitems⟩
    rcases Item.eq_ofPayload_of_payload hpayload with ⟨rfl, hlimit⟩
    cases hread : c.decode.items payload with
    | ok ys tail =>
        rw [hread] at hitems
        cases hitems
        exact ⟨payload, rfl, hlimit, Decoder.run_of_items_eq_ok hc.progresses hread⟩
    | fail e tail =>
        rw [hread] at hitems
        cases hitems
  · rintro ⟨payload, rfl, hlimit, hrun⟩
    simp only [list, Item.payload_ofPayload_append hlimit, Read.andThen_ok,
      hrun.items_eq_ok hc.progresses]

theorem run_of_encodeAll {c : Codec α} (hc : c.decode.ItemWise) {xs : List α} {b : Bytes}
    (hxs : forall x, x ∈ xs -> c.RoundTripsAt x) (hb : c.encodeAll xs = .ok b)
    (hlength : b.length < payloadLimit) : Decoder.Run c.decode b xs := by
  induction xs generalizing b with
  | nil =>
      cases hb
      exact Decoder.Run.nil
  | cons x xs ih =>
      rcases encodeAll_cons_eq_ok.mp hb with ⟨e, tail, he, htail, rfl⟩
      rw [List.length_append] at hlength
      rcases (hxs x (by simp)).isWhole he (by omega) with ⟨hwhole, hread⟩
      exact Decoder.Run.cons (hc.append_of_eq_ok hwhole hread tail)
        (ih (fun y hy => hxs y (by simp [hy])) htail (by omega))

theorem list_encode_eq_ok_iff {c : Codec α} {xs : List α} {e : Bytes} :
    (list c).encode xs = .ok e <->
      exists payload, c.encodeAll xs = .ok payload ∧ e = Item.ofPayload payload :=
  Outcome.map_eq_ok_iff

theorem RoundTripsAt.list {c : Codec α} (hc : c.decode.ItemWise) {xs : List α}
    (hxs : forall x, x ∈ xs -> c.RoundTripsAt x) : (list c).RoundTripsAt xs := by
  intro e he
  rcases list_encode_eq_ok_iff.mp he with ⟨payload, hpayload, rfl⟩
  refine ⟨true, payload, rfl, fun hlimit => ?_⟩
  exact (list_decode_eq_ok_iff hc).mpr
    ⟨payload, by simp, hlimit, run_of_encodeAll hc hxs hpayload hlimit⟩

theorem exists_parts {c : Codec α} (hc : c.decode.ItemWise) {b : Bytes} {xs : List α}
    (h : Decoder.Run c.decode b xs) :
    exists parts : List Bytes, b = parts.flatten ∧ forall e, e ∈ parts -> Item.IsWhole e := by
  induction h with
  | nil =>
      exact ⟨[], rfl, fun e he => by cases he⟩
  | cons hread _ ih =>
      rcases hc.split hread with ⟨e, hwhole, rfl, _⟩
      rcases ih with ⟨parts, rfl, hparts⟩
      exact ⟨e :: parts, rfl, List.forall_mem_cons.mpr ⟨hwhole, hparts⟩⟩

theorem run_part_append {c : Codec α} (hc : c.decode.ItemWise) {e tail : Bytes} {xs : List α}
    (he : Item.IsWhole e) (h : Decoder.Run c.decode (e ++ tail) xs) :
    exists x xs', xs = x :: xs' ∧ c.decode e = .ok x [] ∧ Decoder.Run c.decode tail xs' := by
  generalize hb : e ++ tail = b at h
  cases h with
  | nil =>
      exact absurd (List.append_eq_nil_iff.mp hb).1 he.ne_nil
  | @cons _ rest x xs' hread htail =>
      rw [← hb, hc.append he] at hread
      rcases Read.extend_eq_ok hread with ⟨left, hx, rfl⟩
      have hleft := hc.exhausts he hx
      subst hleft
      exact ⟨x, xs', rfl, hx, htail⟩

theorem encodeAll_of_run {c : Codec α} (hc : c.decode.ItemWise) {parts : List Bytes}
    {xs : List α} (hparts : forall e, e ∈ parts -> Item.IsWhole e ∧ c.CanonicalAt e)
    (h : Decoder.Run c.decode parts.flatten xs) : c.encodeAll xs = .ok parts.flatten := by
  induction parts generalizing xs with
  | nil =>
      cases h with
      | nil =>
          rfl
      | cons hread _ =>
          exact absurd (hc.progresses hread) (Nat.not_lt_zero _)
  | cons e parts ih =>
      rcases hparts e (by simp) with ⟨hwhole, hcanonical⟩
      rcases run_part_append hc hwhole h with ⟨x, xs', rfl, hx, htail⟩
      have hrest := ih (fun e' he' => hparts e' (by simp [he'])) htail
      exact encodeAll_cons_eq_ok.mpr ⟨e, parts.flatten, hcanonical x hx, hrest, rfl⟩

theorem CanonicalAt.list {c : Codec α} (hc : c.decode.ItemWise) {e : Bytes}
    (he : forall parts, Item.IsListOf parts e -> forall p, p ∈ parts -> c.CanonicalAt p) :
    (list c).CanonicalAt e := by
  intro xs h
  rcases (list_decode_eq_ok_iff hc).mp h with ⟨payload, rfl, hlimit, hrun⟩
  rcases exists_parts hc hrun with ⟨parts, rfl, hwhole⟩
  have hparts := he parts ⟨by simp, hlimit, hwhole⟩
  refine list_encode_eq_ok_iff.mpr ⟨parts.flatten, ?_, by simp⟩
  exact encodeAll_of_run hc (fun p hp => ⟨hwhole p hp, hparts p hp⟩) hrun

theorem Lawful.list {c : Codec α} (hc : c.Lawful) : (list c).Lawful where
  itemWise := list_itemWise c
  roundTrips _ := .list hc.itemWise fun x _ => hc.roundTrips x

theorem Strict.list {c : Codec α} (hc : c.Strict) : (list c).Strict where
  toLawful := hc.toLawful.list
  canonical _ := .list hc.itemWise fun _ _ p _ => hc.canonical p

end Laws
end Codec
end ChainWire
