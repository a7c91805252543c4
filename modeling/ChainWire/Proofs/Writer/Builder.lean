import ChainWire.Proofs.Writer.Appending
import Mathlib.Data.List.Forall2

/-!
# Records whose fields may fail

A record that is built field by field holds the fields that could be written,
in the order in which they were pushed, whatever was tried in between.
-/

namespace ChainWire

/-- Writing leaves the old contents of a buffer in front, and without success nothing else. -/
structure Writer.AllOrNothing {α : Type} (w : Writer α) : Prop where
  ok : forall x out buffer, w x out = .ok buffer ->
    exists e, w.whole x = .ok e ∧ buffer = out ++ e
  fail : forall x out fault buffer, w x out = .fail fault buffer ->
    buffer = out ∧ w.whole x = .error fault

theorem Writer.allOrNothing_of_appending {α : Type} {w : Writer α}
    {encode : α -> Except EncodeFault Bytes}
    (h : forall x out, w x out = .appending out (encode x)) :
    w.AllOrNothing ∧ forall x, w.whole x = encode x := by
  have hwhole (x : α) : w.whole x = encode x := by
    rw [Writer.whole, h, Written.result_appending_nil]
  refine ⟨⟨?_, ?_⟩, hwhole⟩
  · intro x out buffer hw
    rw [h] at hw
    rw [hwhole]
    exact Written.appending_eq_ok hw
  · intro x out fault buffer hw
    rw [h] at hw
    rw [hwhole]
    exact (Written.appending_eq_fail hw).symm

structure TypedField where
  type : ItemType
  value : type.Carrier

def TypedField.item (x : TypedField) : Except EncodeFault Bytes :=
  x.type.writer.whole x.value

/-- What can be asked of a record under construction. -/
inductive FieldCall where
  | push (x : TypedField)
  | pushOptional (type : ItemType) (x : Option type.Carrier)

namespace FieldCall

def field? : FieldCall -> Option TypedField
  | push x => some x
  | pushOptional type x => x.map (TypedField.mk type)

def perform : FieldCall -> RecordBuilder -> Option EncodeFault × RecordBuilder
  | push x, r => r.append x.type.writer x.value
  | pushOptional type x, r => r.appendOptional type.writer x

end FieldCall

def TypedField.Items (fields : List TypedField) (items : List Bytes) : Prop :=
  List.Forall₂ (fun x item => x.item = .ok item) fields items

namespace RecordBuilder

theorem append_eq_push {α : Type} {c : Codec α} {w : Writer α} (hc : c.WrittenBy w) (x : α)
    (r : RecordBuilder) :
    r.append w x =
      match r.push c x with
      | .ok r' => (none, r')
      | .error e => (some e, r) := by
  unfold append push
  rw [hc x r.payload]
  cases c.encode x <;> rfl

theorem append_cases (x : TypedField) (r : RecordBuilder) :
    (exists item, x.item = .ok item ∧
      r.append x.type.writer x.value = (none, ⟨r.payload ++ item⟩)) ∨
    (exists fault, x.item = .error fault ∧ r.append x.type.writer x.value = (some fault, r)) := by
  rw [append_eq_push x.type.codec_writtenBy, push, TypedField.item, x.type.codec_writtenBy.whole_eq]
  cases x.type.codec.encode x.value with
  | ok item =>
      exact Or.inl ⟨item, rfl, rfl⟩
  | error fault =>
      exact Or.inr ⟨fault, rfl, rfl⟩

end RecordBuilder

theorem FieldCall.perform_cases (call : FieldCall) (r : RecordBuilder) :
    (exists items, TypedField.Items call.field?.toList items ∧
      call.perform r = (none, ⟨r.payload ++ items.flatten⟩)) ∨
    (exists fault, call.perform r = (some fault, r)) := by
  have hpush (x : TypedField) :
      (exists items, TypedField.Items [x] items ∧
        r.append x.type.writer x.value = (none, ⟨r.payload ++ items.flatten⟩)) ∨
      (exists fault, r.append x.type.writer x.value = (some fault, r)) := by
    rcases r.append_cases x with ⟨item, hitem, happend⟩ | ⟨fault, _, happend⟩
    · exact Or.inl ⟨[item], .cons hitem .nil, by simpa using happend⟩
    · exact Or.inr ⟨fault, happend⟩
  cases call with
  | push x =>
      exact hpush x
  | pushOptional type x =>
      cases x with
      | none =>
          exact Or.inl ⟨[], .nil, by simp [perform, RecordBuilder.appendOptional]⟩
      | some x =>
          exact hpush ⟨type, x⟩

namespace RecordBuilder

/-- Perform calls one after another; the fields of those without a fault are accepted. -/
def run : List FieldCall -> RecordBuilder -> List TypedField × RecordBuilder
  | [], r => ([], r)
  | call :: calls, r =>
      match call.perform r with
      | (none, r) => (call.field?.toList ++ (run calls r).1, (run calls r).2)
      | (some _, r) => run calls r

theorem exists_items_of_run (calls : List FieldCall) (r : RecordBuilder) :
    exists items, TypedField.Items (run calls r).1 items ∧
      (run calls r).2.payload = r.payload ++ items.flatten := by
  induction calls generalizing r with
  | nil =>
      exact ⟨[], .nil, by simp [run]⟩
  | cons call calls ih =>
      rw [run]
      rcases call.perform_cases r with ⟨first, hfirst, hcall⟩ | ⟨fault, hcall⟩
      · rcases ih ⟨r.payload ++ first.flatten⟩ with ⟨items, hitems, hpayload⟩
        rw [hcall]
        refine ⟨first ++ items, List.rel_append hfirst hitems, ?_⟩
        simp [hpayload]
      · -- The later calls find the record that the failed one found.
        rw [hcall]
        exact ih r

end RecordBuilder

/--
Writers of all types of items append an item or leave the buffer alone, and so
does every way to lay out a packet.  So a record that is built by any calls, no
matter which of them fail, is the list of the items of the accepted fields.
-/
theorem Writer.all_or_nothing :
    (forall t : ItemType, t.writer.AllOrNothing ∧
      forall x, t.writer.whole x = t.codec.encode x) ∧
    (forall f : Framing, Writer.AllOrNothing f.write ∧
      forall p, Writer.whole f.write p = f.encode p) ∧
    (forall (calls : List FieldCall) (out : Bytes),
      exists items, TypedField.Items (RecordBuilder.run calls .empty).1 items ∧
        (RecordBuilder.run calls .empty).2.finishInto out =
          out ++ Item.ofPayload items.flatten) := by
  refine ⟨?_, ?_, ?_⟩
  · intro t
    exact allOrNothing_of_appending t.codec_writtenBy
  · intro f
    exact allOrNothing_of_appending f.write_eq
  · intro calls out
    rcases RecordBuilder.exists_items_of_run calls .empty with ⟨items, hitems, hpayload⟩
    refine ⟨items, hitems, ?_⟩
    rw [RecordBuilder.finishInto, RecordBuilder.finish, hpayload]
    rfl

/-- Five calls; the second fails at the last of two transactions, and the fourth fails as well. -/
def mixedCalls : List FieldCall :=
  [.push ⟨.bytes, [7]⟩, .push ⟨.list .transaction, [.typed 2 [], .typed 0x90 []]⟩,
    .pushOptional .receipt none, .pushOptional .transaction (some (.typed 0x80 [])),
    .pushOptional .bool (some true)]

/-- A list behind a byte, a list that cannot be written there, and the record of two fields. -/
theorem Writer.all_or_nothing_mixedCalls :
    ((ItemType.list .transaction).writer [.typed 2 []] [0xAA] = .ok [0xAA, 0xC1, 0x02] ∧
      exists e, Writer.whole (ItemType.list .transaction).writer [.typed 2 []] = .ok e ∧
        [0xAA, 0xC1, 0x02] = [0xAA] ++ e) ∧
    ((ItemType.list .transaction).writer [.typed 2 [], .typed 0x90 []] [0xAA] =
        .fail (.invalidEnvelopeType 0x90) [0xAA] ∧
      Writer.whole (ItemType.list .transaction).writer [.typed 2 [], .typed 0x90 []] =
        .error (.invalidEnvelopeType 0x90)) ∧
    (RecordBuilder.run mixedCalls .empty).1 = [⟨.bytes, [7]⟩, ⟨.bool, true⟩] ∧
      (RecordBuilder.run mixedCalls .empty).2.finishInto [0xAA] = [0xAA, 0xC2, 0x07, 0x01] ∧
      exists items, TypedField.Items (RecordBuilder.run mixedCalls .empty).1 items ∧
        (RecordBuilder.run mixedCalls .empty).2.finishInto [0xAA] =
          [0xAA] ++ Item.ofPayload items.flatten := by
  have hlist := (all_or_nothing.1 (.list .transaction)).1
  have hok : (ItemType.list .transaction).writer [.typed 2 []] [0xAA] =
      .ok [0xAA, 0xC1, 0x02] := rfl
  have hfail : (ItemType.list .transaction).writer [.typed 2 [], .typed 0x90 []] [0xAA] =
      .fail (.invalidEnvelopeType 0x90) [0xAA] := rfl
  refine ⟨⟨hok, hlist.ok _ _ _ hok⟩, ⟨hfail, (hlist.fail _ _ _ _ hfail).2⟩, rfl, rfl, ?_⟩
  exact all_or_nothing.2.2 mixedCalls [0xAA]

end ChainWire
