import ChainWire.Chain.Envelope
import ChainWire.Codec.Record
import ChainWire.RawItem

/-!
# What codecs fail at

Reading fails at the bytes that are read.  Whether their code is known is not
for a codec to say, so no codec has a fault for it.

Writing fails at type bytes alone.  `Codec.Faults` goes by a list of the type
bytes in a value, in the order in which they would be written: the first one
that is reserved gives the fault, and without one the value is written.
-/

namespace ChainWire

namespace Outcome

def fault? {ε α : Type} : Except ε α -> Option ε
  | .ok _ => none
  | .error e => some e

section Faults

variable {ε α β : Type} {x : Except ε α}

theorem fault?_eq_none_iff : fault? x = none <-> exists y, x = .ok y := by
  cases x <;> simp [fault?]

theorem fault?_eq_some_iff {e : ε} : fault? x = some e <-> x = .error e := by
  cases x <;> simp [fault?]

theorem fault?_map (f : α -> β) : fault? (x.map f) = fault? x := by
  cases x <;> rfl

theorem fault?_mapM (f : α -> Except ε β) (as : List α) :
    fault? (as.mapM f) = as.findSome? fun a => fault? (f a) := by
  induction as with
  | nil =>
      rfl
  | cons a as ih =>
      rw [List.mapM_cons, List.findSome?_cons, ← ih]
      cases f a with
      | error e =>
          rfl
      | ok y =>
          cases as.mapM f <;> rfl

end Faults
end Outcome

/-!
## Reading
-/

/-- The fault is with the bytes, not with the code under which they came. -/
def DecodeFault.InPayload : DecodeFault -> Prop
  | .unsupportedKind _ _ => False
  | _ => True

namespace Read

def FailsInPayload {α : Type} (r : Read α) : Prop :=
  forall e rest, r = .fail e rest -> e.InPayload

namespace FailsInPayload

variable {α β : Type} {r r' : Read α}

theorem ok {x : α} {rest : Bytes} : (Read.ok x rest).FailsInPayload := by
  intro e left h
  cases h

theorem fail {e : DecodeFault} {rest : Bytes} (he : e.InPayload) :
    (Read.fail e rest : Read α).FailsInPayload := by
  intro e' left h
  cases h
  exact he

theorem ite {c : Prop} [Decidable c] (hr : r.FailsInPayload) (hr' : r'.FailsInPayload) :
    (if c then r else r').FailsInPayload := by
  split
  · exact hr
  · exact hr'

theorem dite {c : Prop} [Decidable c] {f : c -> Read α} {g : ¬ c -> Read α}
    (hf : forall hc, (f hc).FailsInPayload) (hg : forall hc, (g hc).FailsInPayload) :
    (if hc : c then f hc else g hc).FailsInPayload := by
  split
  · exact hf _
  · exact hg _

theorem andThen {f : α -> Bytes -> Read β} (hr : r.FailsInPayload)
    (hf : forall x rest, (f x rest).FailsInPayload) : (r.andThen f).FailsInPayload := by
  cases r with
  | ok x rest =>
      exact hf x rest
  | fail e rest =>
      exact .fail (hr e rest rfl)

theorem map (hr : r.FailsInPayload) (f : α -> β) : (r.map f).FailsInPayload :=
  hr.andThen fun _ _ => .ok

end FailsInPayload
end Read

namespace Decoder

def FailsInPayload {α : Type} (d : Decoder α) : Prop :=
  forall b, (d b).FailsInPayload

end Decoder

namespace Header

theorem decodeLength_failsInPayload (width : Nat) : (decodeLength width).FailsInPayload :=
  fun _ => .ite (.fail trivial) <| .ite (.fail trivial) <| .ite (.fail trivial) <|
    .ite (.fail trivial) .ok

theorem present_failsInPayload (h : Header) : h.present.FailsInPayload :=
  fun _ => .ite .ok (.fail trivial)

theorem decode_failsInPayload : decode.FailsInPayload := by
  intro b
  cases b with
  | nil =>
      exact .fail trivial
  | cons x rest =>
      have hlength (width : Nat) (form : Nat -> Header) :
          ((decodeLength width rest).andThen fun n => present (form n)).FailsInPayload :=
        (decodeLength_failsInPayload width rest).andThen fun n => present_failsInPayload (form n)
      unfold decode
      dsimp only
      apply Read.FailsInPayload.ite Read.FailsInPayload.ok
      apply Read.FailsInPayload.ite
      · exact .ite (.fail trivial) (present_failsInPayload _ rest)
      · apply Read.FailsInPayload.ite
        · exact hlength _ string
        · exact .ite (present_failsInPayload _ rest) (hlength _ list)

theorem peek_failsInPayload : peek.FailsInPayload := by
  intro b
  unfold peek
  cases h : decode b with
  | ok header rest =>
      exact .ok
  | fail e rest =>
      exact .fail (decode_failsInPayload b e rest h)

end Header

namespace Item

theorem string_failsInPayload : string.FailsInPayload :=
  fun b => (Header.decode_failsInPayload b).andThen fun _ _ => .ite (.fail trivial) .ok

theorem payload_failsInPayload : payload.FailsInPayload :=
  fun b => (Header.decode_failsInPayload b).andThen fun _ _ => .ite .ok (.fail trivial)

end Item

theorem RawItem.decode_failsInPayload : RawItem.decode.FailsInPayload := by
  intro b
  unfold decode Item.span
  cases h : Header.decode b with
  | ok header rest =>
      exact .ok
  | fail e rest =>
      exact .fail (Header.decode_failsInPayload b e rest h)

namespace Uint

theorem decode_failsInPayload {width : Nat} : (decode : Decoder (Uint width)).FailsInPayload := by
  intro b
  apply Read.FailsInPayload.map
  exact (Item.string_failsInPayload b).andThen fun _ _ =>
    .ite (.fail trivial) (.dite (fun _ => .ok) fun _ => .fail trivial)

end Uint

namespace Decoder

section Decoders

variable {α : Type} {d : Decoder α}

theorem FailsInPayload.exact (hd : d.FailsInPayload) {b : Bytes} {e : DecodeFault}
    (h : d.exact b = .error e) : e.InPayload := by
  unfold Decoder.exact at h
  split at h
  · cases h
  · cases h
    exact trivial
  · rename_i hfail
    cases h
    exact hd b _ _ hfail

theorem FailsInPayload.map {β : Type} (hd : d.FailsInPayload) (f : α -> β) :
    (d.map f).FailsInPayload :=
  fun b => (hd b).map f

theorem FailsInPayload.itemsFrom (hd : d.FailsInPayload) (budget : Nat) (acc : List α) :
    (Decoder.itemsFrom d budget acc).FailsInPayload := by
  intro b
  fun_induction Decoder.itemsFrom d budget acc b with
  | case1 | case2 =>
      exact .ok
  | case3 budget acc b _ ih =>
      exact (hd b).andThen fun x rest => ih x rest

theorem FailsInPayload.field (hd : d.FailsInPayload) (item : String) :
    (Decoder.field item d).FailsInPayload :=
  fun b => .ite (.fail trivial) (hd b)

theorem FailsInPayload.optionalField (hd : d.FailsInPayload) :
    (Decoder.optionalField d).FailsInPayload :=
  fun b => .ite .ok ((hd b).map some)

theorem FailsInPayload.record (hd : d.FailsInPayload) (item : String) :
    (Decoder.record item d).FailsInPayload := by
  intro b
  apply (Item.payload_failsInPayload b).andThen
  intro payload rest
  cases h : d payload with
  | fail e left =>
      exact .fail (hd payload e left h)
  | ok x left =>
      dsimp only
      cases left with
      | nil =>
          exact .ok
      | cons y ys =>
          exact .fail trivial

end Decoders
end Decoder

/-!
## Writing
-/

/-- What writing comes to for a value with the given type bytes. -/
def TypedEnvelope.fault? (types : List UInt8) : Option EncodeFault :=
  (types.find? isReserved).map .invalidEnvelopeType

theorem TypedEnvelope.fault?_append (types types' : List UInt8) :
    fault? (types ++ types') = (fault? types).or (fault? types') := by
  unfold fault?
  rw [List.find?_append]
  cases types.find? isReserved <;> rfl

theorem TypedEnvelope.fault?_flatMap {α : Type} (types : α -> List UInt8) (xs : List α) :
    fault? (xs.flatMap types) = xs.findSome? fun x => fault? (types x) := by
  induction xs with
  | nil =>
      rfl
  | cons x xs ih =>
      rw [List.flatMap_cons, fault?_append, List.findSome?_cons, ih]
      cases fault? (types x) <;> rfl

namespace Fields

/-- Reading fails at the bytes, and writing at the first type byte that is reserved. -/
structure Faults {α : Type} (f : Fields α) (types : α -> List UInt8) : Prop where
  reads : forall item, (f.decode item).FailsInPayload
  writes : forall x, Outcome.fault? (f.encode x) = TypedEnvelope.fault? (types x)

end Fields

namespace Codec

structure Faults {α : Type} (c : Codec α) (types : α -> List UInt8) : Prop where
  reads : c.decode.FailsInPayload
  writes : forall x, Outcome.fault? (c.encode x) = TypedEnvelope.fault? (types x)

abbrev Untyped {α : Type} (c : Codec α) : Prop :=
  c.Faults fun _ => []

section Combining

variable {α β : Type} {c : Codec α} {types : α -> List UInt8} {types' : β -> List UInt8}

theorem Faults.through (hc : c.Faults types) {view : β -> α} {build : α -> β}
    (htypes : forall y, types' y = types (view y)) : (c.through view build).Faults types' where
  reads := hc.reads.map build
  writes y := by
    rw [htypes]
    exact hc.writes (view y)

theorem Faults.list (hc : c.Faults types) : (list c).Faults fun xs => xs.flatMap types where
  reads := by
    intro b
    apply (Item.payload_failsInPayload b).andThen
    intro payload rest
    cases h : Decoder.items c.decode payload with
    | ok xs left =>
        exact .ok
    | fail e left =>
        exact .fail (hc.reads.itemsFrom payload.length [] payload e left h)
  writes xs := by
    show Outcome.fault? (((xs.mapM c.encode).map List.flatten).map Item.ofPayload) = _
    rw [Outcome.fault?_map, Outcome.fault?_map, Outcome.fault?_mapM,
      TypedEnvelope.fault?_flatMap, funext hc.writes]

theorem Untyped.list (hc : c.Untyped) : (Codec.list c).Untyped where
  reads := (Faults.list hc).reads
  writes xs := by
    rw [(Faults.list hc).writes, List.flatMap_eq_nil_iff.mpr fun _ _ => rfl]

theorem Faults.record {f : Fields α} {item : String} (hf : f.Faults types) :
    (record item f).Faults types where
  reads := (hf.reads item).record item
  writes x := by
    show Outcome.fault? ((f.encode x).map Item.ofPayload) = _
    rw [Outcome.fault?_map, hf.writes]

end Combining
end Codec

namespace Fields.Faults

variable {α β : Type} {c : Codec α} {types : α -> List UInt8} {g : Fields β}
  {types' : β -> List UInt8}

theorem one (hc : c.Faults types) : (one c).Faults types where
  reads item := hc.reads.field item
  writes := hc.writes

theorem optional (hc : c.Untyped) : (optional c).Faults fun _ => [] where
  reads _ := hc.reads.optionalField
  writes x := by
    cases x with
    | none =>
        rfl
    | some x =>
        exact hc.writes x

theorem cons (hc : c.Faults types) (hg : g.Faults types') :
    (cons c g).Faults fun p => types p.1 ++ types' p.2 where
  reads item b :=
    (hc.reads.field item b).andThen fun _ rest => (hg.reads item rest).map _
  writes p := by
    rw [TypedEnvelope.fault?_append, ← hc.writes, ← hg.writes]
    show Outcome.fault? (c.encode p.1 >>= fun first =>
      g.encode p.2 >>= fun second => pure (first ++ second)) = _
    cases c.encode p.1 with
    | error e =>
        rfl
    | ok first =>
        cases g.encode p.2 <;> rfl

end Fields.Faults

/-!
## Single fields
-/

namespace Codec

theorem uint_untyped (width : Nat) : (uint width).Untyped where
  reads := Uint.decode_failsInPayload
  writes _ := rfl

theorem octets_untyped (width : Nat) : (octets width).Untyped where
  reads b := (Item.string_failsInPayload b).andThen fun _ _ =>
    .dite (fun _ => .ok) fun _ => .fail trivial
  writes _ := rfl

theorem bytes_untyped : bytes.Untyped where
  reads := Item.string_failsInPayload
  writes _ := rfl

theorem bool_untyped : bool.Untyped where
  reads b := (Uint.decode_failsInPayload b).andThen fun _ _ =>
    .ite .ok (.ite .ok (.fail trivial))
  writes _ := rfl

theorem raw_untyped : raw.Untyped where
  reads := RawItem.decode_failsInPayload
  writes _ := rfl

end Codec
end ChainWire
