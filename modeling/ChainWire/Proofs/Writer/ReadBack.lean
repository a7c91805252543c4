import ChainWire.Proofs.Codec.Record
import ChainWire.Proofs.Value.RoundTrip
import ChainWire.Proofs.Value.Writing

/-!
# Records are read back field by field

A record that is built call by call and one that is read field by field are
two sides of the same list.  The reader keeps nothing but the payload that is
left, and what is left after some fields is the encodings of the others.  No
encoding is empty, so the reader knows from its payload whether a field is left.
-/

namespace ChainWire

open Header (payloadLimit)

namespace Decoder

section InTurn

variable {α : Type} {item : String} {d : Decoder α}

def fieldsInTurn (item : String) (d : Decoder α) : Nat -> Decoder (List α)
  | 0, b => .ok [] b
  | k + 1, b =>
      (field item d b).andThen fun x rest =>
        (fieldsInTurn item d k rest).map fun xs => x :: xs

theorem field_nil : field item d [] = .fail (.fieldCountMismatch item) [] := rfl

theorem optionalField_nil : optionalField d [] = .ok none [] := rfl

/-- The fields are taken to be complete exactly if nothing is left. -/
theorem noMoreFields_eq (item : String) (b : Bytes) :
    noMoreFields item b = if b = [] then .ok () b else .fail (.fieldCountMismatch item) b := by
  simp only [noMoreFields, List.isEmpty_iff]

variable {f : α -> Bytes} {xs : List α}

theorem fieldsInTurn_flatMap_append (hne : forall x, f x ≠ [])
    (hread : forall x, x ∈ xs -> forall rest, d (f x ++ rest) = .ok x rest) (rest : Bytes) :
    fieldsInTurn item d xs.length (xs.flatMap f ++ rest) = .ok xs rest := by
  induction xs with
  | nil =>
      rfl
  | cons x xs ih =>
      have hfield : field item d (f x ++ (xs.flatMap f ++ rest)) =
          .ok x (xs.flatMap f ++ rest) := by
        rw [field_of_ne_nil (by simp [hne x])]
        exact hread x (by simp) _
      rw [List.flatMap_cons, List.append_assoc, List.length_cons, fieldsInTurn, hfield,
        Read.andThen_ok, ih fun y hy => hread y (by simp [hy]), Read.map_ok]

theorem fieldsInTurn_flatMap (hne : forall x, f x ≠ [])
    (hread : forall x, x ∈ xs -> forall rest, d (f x ++ rest) = .ok x rest) {k : Nat}
    (hk : k <= xs.length) :
    fieldsInTurn item d k (xs.flatMap f) = .ok (xs.take k) ((xs.drop k).flatMap f) := by
  have hfirst (x : α) (hx : x ∈ xs.take k) : forall rest, d (f x ++ rest) = .ok x rest :=
    hread x (List.mem_of_mem_take hx)
  calc
    fieldsInTurn item d k (xs.flatMap f)
        = fieldsInTurn item d (xs.take k).length
            ((xs.take k).flatMap f ++ (xs.drop k).flatMap f) := by
          rw [← List.flatMap_append, List.take_append_drop, List.length_take_of_le hk]
    _ = .ok (xs.take k) ((xs.drop k).flatMap f) := fieldsInTurn_flatMap_append hne hfirst _

theorem flatMap_drop_eq_nil_iff (hne : forall x, f x ≠ []) {k : Nat} (hk : k <= xs.length) :
    (xs.drop k).flatMap f = [] <-> k = xs.length := by
  have hnil : (xs.drop k).flatMap f = [] <-> xs.drop k = [] := by
    cases xs.drop k with
    | nil =>
        simp
    | cons x tail =>
        simp [hne x]
  rw [hnil, List.drop_eq_nil_iff]
  omega

end InTurn
end Decoder

namespace RecordBuilder

theorem run_of_values {calls : List FieldCall} {vs : List Value}
    (hcalls : calls.filterMap FieldCall.field? = vs.map (TypedField.mk .value)) :
    run calls .empty = (vs.map (TypedField.mk .value), ⟨(Value.list vs).payload⟩) := by
  have hitems := Value.items_of_values vs
  rw [← hcalls] at hitems
  rw [run_of_items hitems, hcalls, Value.payload, List.flatMap_def]
  rfl

/--
Values that are pushed in any way, with absent fields in between, are read back
one by one.  After each number of reads, the reader tells whether a value is
left, and finishing succeeds only if none is; then every further field is
missing, and every optional field absent.
-/
theorem read_back_in_turn (item : String) (vs : List Value) (calls : List FieldCall)
    (rest : Bytes)
    (hcalls : calls.filterMap FieldCall.field? = vs.map (TypedField.mk .value))
    (hdepth : forall v, v ∈ vs -> forall m, m ∈ v.nodes -> m.1 <= Value.maxDepth)
    (hlength : (vs.flatMap Value.encode).length < payloadLimit) :
    (run calls .empty).1 = vs.map (TypedField.mk .value) ∧
    exists payload,
      Item.payload ((run calls .empty).2.finish ++ rest) = .ok payload rest ∧
      forall k, k <= vs.length -> exists left,
        Decoder.fieldsInTurn item Value.decode k payload = .ok (vs.take k) left ∧
        (left.isEmpty = true <-> k = vs.length) ∧
        Decoder.noMoreFields item left =
          (if k = vs.length then .ok () left else .fail (.fieldCountMismatch item) left) ∧
        (k = vs.length -> forall (α : Type) (d : Decoder α),
          Decoder.field item d left = .fail (.fieldCountMismatch item) left ∧
            Decoder.optionalField d left = .ok none left) := by
  have hrun := run_of_values hcalls
  have hread (v : Value) (hv : v ∈ vs) (after : Bytes) :
      Value.decode (v.encode ++ after) = .ok v after := by
    have hpayload : v.payload.length < payloadLimit :=
      Nat.lt_of_le_of_lt (Value.length_payload_le_of_mem hv) hlength
    exact Value.decodeWithin_encode_append hpayload
      ((Value.fitsIn_succ_maxDepth v).mpr (hdepth v hv)) after
  refine ⟨congrArg Prod.fst hrun, vs.flatMap Value.encode, ?_, ?_⟩
  · rw [hrun, finish]
    exact Item.payload_ofPayload_append hlength rest
  · intro k hk
    have hleft := Decoder.flatMap_drop_eq_nil_iff Value.encode_ne_nil hk
    refine ⟨(vs.drop k).flatMap Value.encode, ?_, ?_, ?_, ?_⟩
    · exact Decoder.fieldsInTurn_flatMap Value.encode_ne_nil hread hk
    · rw [List.isEmpty_iff, hleft]
    · simp only [Decoder.noMoreFields_eq, hleft]
    · intro hall α d
      rw [hleft.mpr hall]
      exact ⟨Decoder.field_nil, Decoder.optionalField_nil⟩

/-- Two values, each with an absent field in front of it. -/
def absentBetween : List FieldCall :=
  [.pushOptional .receipt none, .push ⟨.value, .bytes [7]⟩, .pushOptional .bool none,
    .push ⟨.value, .list [.bytes []]⟩]

/-- A byte and a list with an empty string; after the byte, the list is left, and then nothing. -/
theorem read_back_in_turn_absentBetween :
    absentBetween.filterMap FieldCall.field? =
      [Value.bytes [7], .list [.bytes []]].map (TypedField.mk .value) ∧
    (forall v, v ∈ [Value.bytes [7], .list [.bytes []]] ->
      forall m, m ∈ v.nodes -> m.1 <= Value.maxDepth) ∧
    ([Value.bytes [7], .list [.bytes []]].flatMap Value.encode).length < payloadLimit ∧
    exists payload,
      Item.payload ((run absentBetween .empty).2.finish ++ [0xFF]) = .ok payload [0xFF] ∧
      (exists left,
        Decoder.fieldsInTurn "pair" Value.decode 1 payload = .ok [.bytes [7]] left ∧
        left.isEmpty = false ∧
        Decoder.noMoreFields "pair" left = .fail (.fieldCountMismatch "pair") left) ∧
      exists left,
        Decoder.fieldsInTurn "pair" Value.decode 2 payload =
          .ok [.bytes [7], .list [.bytes []]] left ∧
        left.isEmpty = true ∧
        Decoder.noMoreFields "pair" left = .ok () left ∧
        Decoder.field "pair" Value.decode left = .fail (.fieldCountMismatch "pair") left := by
  have hcalls : absentBetween.filterMap FieldCall.field? =
      [Value.bytes [7], .list [.bytes []]].map (TypedField.mk .value) := rfl
  have hdepth : forall v, v ∈ [Value.bytes [7], .list [.bytes []]] ->
      forall m, m ∈ v.nodes -> m.1 <= Value.maxDepth := by
    simp [Value.nodes, Value.maxDepth, or_imp, forall_and]
  have hlength :
      ([Value.bytes [7], .list [.bytes []]].flatMap Value.encode).length < payloadLimit := by
    simp only [Value.encode, List.flatMap_cons, List.flatMap_nil]
    decide
  rcases (read_back_in_turn "pair" _ _ [0xFF] hcalls hdepth hlength).2 with
    ⟨payload, hpayload, hreads⟩
  refine ⟨hcalls, hdepth, hlength, payload, hpayload, ?_, ?_⟩
  · rcases hreads 1 (by decide) with ⟨left, hread, hempty, hfinish, _⟩
    exact ⟨left, hread, by simpa using hempty, by simpa using hfinish⟩
  · rcases hreads 2 (by decide) with ⟨left, hread, hempty, hfinish, hmissing⟩
    exact ⟨left, hread, by simpa using hempty, by simpa using hfinish, (hmissing rfl _ _).1⟩

end RecordBuilder
end ChainWire
