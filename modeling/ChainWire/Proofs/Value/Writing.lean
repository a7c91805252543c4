import ChainWire.Proofs.Codec.Primitive
import ChainWire.Proofs.Writer.Builder

/-!
# Three ways to write a list of values

A list of values is itself a value, which announces its length before any of
its parts is written.  It can also be written like a list of any other items,
or field by field; then the payload is there before its length is asked for.
All three leave the same bytes.
-/

namespace ChainWire

open Header (payloadLimit)

namespace RecordBuilder

theorem append_of_item {x : TypedField} {item : Bytes} (hx : x.item = .ok item)
    (r : RecordBuilder) : r.append x.type.writer x.value = (none, ⟨r.payload ++ item⟩) := by
  rcases r.append_cases x with ⟨item', hitem, happend⟩ | ⟨fault, hitem, _⟩
  · cases hx.symm.trans hitem
    exact happend
  · cases hx.symm.trans hitem

end RecordBuilder

namespace FieldCall

variable {call : FieldCall}

theorem perform_of_absent (h : call.field? = none) (r : RecordBuilder) :
    call.perform r = (none, r) := by
  cases call with
  | push x =>
      cases h
  | pushOptional type x =>
      cases x with
      | none =>
          rfl
      | some x =>
          cases h

theorem perform_of_item {x : TypedField} {item : Bytes} (h : call.field? = some x)
    (hx : x.item = .ok item) (r : RecordBuilder) :
    call.perform r = (none, ⟨r.payload ++ item⟩) := by
  cases call with
  | push y =>
      cases h
      exact RecordBuilder.append_of_item hx r
  | pushOptional type y =>
      cases y with
      | none =>
          cases h
      | some y =>
          cases h
          exact RecordBuilder.append_of_item hx r

end FieldCall

namespace RecordBuilder

theorem run_of_items {calls : List FieldCall} {items : List Bytes}
    (h : TypedField.Items (calls.filterMap FieldCall.field?) items) (r : RecordBuilder) :
    run calls r = (calls.filterMap FieldCall.field?, ⟨r.payload ++ items.flatten⟩) := by
  induction calls generalizing items r with
  | nil =>
      rw [List.forall₂_nil_left_iff.mp h]
      simp [run]
  | cons call calls ih =>
      cases hfield : call.field? with
      | none =>
          rw [List.filterMap_cons_none hfield] at h ⊢
          rw [run, FieldCall.perform_of_absent hfield]
          simp [ih h, hfield]
      | some x =>
          rw [List.filterMap_cons_some hfield] at h ⊢
          rcases List.forall₂_cons_left_iff.mp h with ⟨item, others, hitem, hothers, rfl⟩
          rw [run, FieldCall.perform_of_item hfield hitem]
          simp [ih hothers, hfield]

end RecordBuilder

namespace Value

theorem items_of_values (items : List Value) :
    TypedField.Items (items.map (TypedField.mk .value)) (items.map encode) := by
  apply List.forall₂_map_left_iff.mpr
  apply List.forall₂_map_right_iff.mpr
  apply List.forall₂_same.mpr
  intro v _
  show Writer.whole Writer.value v = _
  rw [Codec.value_writtenBy.whole_eq]
  rfl

theorem run_push_values (items : List Value) (r : RecordBuilder) :
    RecordBuilder.run (items.map fun v => .push ⟨.value, v⟩) r =
      (items.map (TypedField.mk .value), ⟨r.payload ++ (list items).payload⟩) := by
  have hfields : (items.map fun v => FieldCall.push ⟨.value, v⟩).filterMap FieldCall.field? =
      items.map (TypedField.mk .value) := by
    simp [List.filterMap_map, Function.comp_def, FieldCall.field?]
  have hitems := items_of_values items
  rw [← hfields] at hitems
  rw [RecordBuilder.run_of_items hitems, hfields, payload, List.flatMap_def]

theorem encodeAll_values (items : List Value) :
    Codec.value.encodeAll items = .ok (list items).payload := by
  induction items with
  | nil =>
      rfl
  | cons v items ih =>
      exact Codec.encodeAll_cons_eq_ok.mpr ⟨v.encode, _, rfl, ih, List.flatMap_cons⟩

theorem encode_values (items : List Value) :
    (Codec.list .value).encode items = .ok (list items).encode := by
  show (Codec.value.encodeAll items).map Item.ofPayload = _
  rw [encodeAll_values, encode_list]
  rfl

theorem length_write (v : Value) (out : Bytes) :
    (v.write out).length = out.length + v.encodedLength := by
  rw [write_eq, List.length_append, encodedLength_eq]

theorem span_write_append {v : Value} (h : v.payload.length < payloadLimit) (rest : Bytes) :
    Item.span (v.write [] ++ rest) = .ok v.encodedLength := by
  rw [write_eq, List.nil_append, encodedLength_eq, encode_eq_wrap]
  exact Item.span_wrap_append h rest

/--
A list of values is written in the same way as a value, as a list of items and
field by field, behind whatever a buffer holds; each of its values is accepted
as a field.  Every value takes as many bytes as it was measured to take before
it was written, and its header, if its length is not too great to be read, tells
the same number.
-/
theorem list_writers_agree :
    (forall (items : List Value) (out : Bytes),
      Writer.list .value items out = .ok ((list items).write out) ∧
      (RecordBuilder.run (items.map fun v => .push ⟨.value, v⟩) .empty).1 =
        items.map (TypedField.mk .value) ∧
      (RecordBuilder.run (items.map fun v => .push ⟨.value, v⟩) .empty).2.finishInto out =
        (list items).write out) ∧
    (forall items : List Value,
      (Writer.list .value).whole items = .ok ((list items).write []) ∧
      (Codec.list .value).encode items = .ok ((list items).write [])) ∧
    (forall (v : Value) (out : Bytes), (v.write out).length = out.length + v.encodedLength) ∧
    (forall v : Value, v.payload.length < payloadLimit -> forall rest : Bytes,
      Item.span (v.write [] ++ rest) = .ok v.encodedLength) := by
  have hlist (items : List Value) (out : Bytes) :
      Writer.list .value items out = .ok ((list items).write out) := by
    rw [Codec.value_writtenBy.list items out, encode_values, write_eq]
    rfl
  refine ⟨?_, ?_, length_write, fun v => span_write_append⟩
  · intro items out
    have hrun := run_push_values items .empty
    refine ⟨hlist items out, congrArg Prod.fst hrun, ?_⟩
    rw [hrun, RecordBuilder.finishInto, RecordBuilder.finish, write_eq, encode_list]
    rfl
  · intro items
    refine ⟨congrArg Written.result (hlist items []), ?_⟩
    rw [encode_values, write_eq, List.nil_append]

/-- A byte that is an item by itself, one that is not, and an empty string one list deeper. -/
theorem list_writers_agree_nested :
    (Writer.list .value [bytes [0x7F], bytes [0x80], list [bytes []]] [0xAA] =
        .ok [0xAA, 0xC5, 0x7F, 0x81, 0x80, 0xC1, 0x80] ∧
      (list [bytes [0x7F], bytes [0x80], list [bytes []]]).write [0xAA] =
        [0xAA, 0xC5, 0x7F, 0x81, 0x80, 0xC1, 0x80]) ∧
    ((list [bytes [0x7F], bytes [0x80], list [bytes []]]).payload.length < payloadLimit ∧
      Item.span [0xC5, 0x7F, 0x81, 0x80, 0xC1, 0x80, 0xFF] = .ok 6) := by
  have hencode : (list [bytes [0x7F], bytes [0x80], list [bytes []]]).encode =
      [0xC5, 0x7F, 0x81, 0x80, 0xC1, 0x80] := by
    simp only [encode, List.flatMap_cons, List.flatMap_nil]
    rfl
  have hlimit : (list [bytes [0x7F], bytes [0x80], list [bytes []]]).payload.length <
      payloadLimit :=
    length_payload_lt_of_encode (by rw [hencode]; decide)
  rcases list_writers_agree with ⟨hwriters, _, _, hspan⟩
  have hlist := (hwriters [bytes [0x7F], bytes [0x80], list [bytes []]] [0xAA]).1
  have hrest := hspan _ hlimit [0xFF]
  rw [encodedLength_eq, write_eq, hencode] at hrest
  rw [write_eq, hencode] at hlist ⊢
  exact ⟨⟨hlist, rfl⟩, hlimit, hrest⟩

end Value
end ChainWire
