import ChainWire.Proofs.Codec.Basic
import ChainWire.Proofs.Value.Basic
import ChainWire.Writer

/-!
# Lawful writers

A writer follows a codec if it appends the encoding to any buffer, and leaves
the buffer as it was if there is no encoding.  Fields in turn obey only half of
this law: those in front of a failed one have been written.  The law is whole
again once the fields are collected in a buffer of their own.
-/

namespace ChainWire

namespace Written

/-- The outcome of appending an encoding, all of it or nothing. -/
def appending (out : Bytes) : Except EncodeFault Bytes -> Written
  | .ok e => .ok (out ++ e)
  | .error f => .fail f out

theorem appending_eq_ok {out buffer : Bytes} {encoding : Except EncodeFault Bytes}
    (h : appending out encoding = .ok buffer) :
    exists e, encoding = .ok e ∧ buffer = out ++ e := by
  cases encoding with
  | ok e =>
      cases h
      exact ⟨e, rfl, rfl⟩
  | error f =>
      cases h

theorem appending_eq_fail {out buffer : Bytes} {encoding : Except EncodeFault Bytes}
    {fault : EncodeFault} (h : appending out encoding = .fail fault buffer) :
    encoding = .error fault ∧ buffer = out := by
  cases encoding with
  | ok e =>
      cases h
  | error f =>
      cases h
      exact ⟨rfl, rfl⟩

theorem result_appending_nil (encoding : Except EncodeFault Bytes) :
    (appending [] encoding).result = encoding := by
  cases encoding <;> rfl

end Written

namespace Value

/-!
## Values are measured before they are written
-/

theorem sum_encodedLength {items : List Value}
    (h : forall v, v ∈ items -> v.encodedLength = v.encode.length) :
    items.foldr (fun v n => v.encodedLength + n) 0 = (list items).payload.length := by
  induction items with
  | nil =>
      rfl
  | cons v items ih =>
      rw [List.foldr_cons, ih fun u hu => h u (by simp [hu]), h v (by simp)]
      simp [payload]

theorem encodedLength_eq (v : Value) : v.encodedLength = v.encode.length := by
  induction v using inductionOnItems with
  | bytes data =>
      rw [encodedLength, encode_bytes]
      rcases Item.ofString_cases data with ⟨x, hx, rfl, hbare⟩ | ⟨hwritten, hneeded⟩
      · simp [Item.startsBare_cons, hx, hbare]
      · have hheader : (data.length == 1 && Header.startsBare data) = false := by
          simpa [Header.redundant, Header.string] using hneeded []
        rw [hheader, if_neg Bool.false_ne_true, hwritten, List.length_append,
          Header.length_encode]
  | list items ih =>
      rw [encodedLength, encode_list, Item.ofPayload, List.length_append, Header.length_encode,
        sum_encodedLength ih]

theorem foldl_write {items : List Value}
    (h : forall v, v ∈ items -> forall out, v.write out = out ++ v.encode) (out : Bytes) :
    items.foldl (fun out v => v.write out) out = out ++ (list items).payload := by
  induction items generalizing out with
  | nil =>
      simp [payload]
  | cons v items ih =>
      rw [List.foldl_cons, h v (by simp), ih fun u hu => h u (by simp [hu])]
      simp [payload]

theorem write_eq (v : Value) (out : Bytes) : v.write out = out ++ v.encode := by
  induction v using inductionOnItems generalizing out with
  | bytes data =>
      rw [write, encode_bytes]
  | list items ih =>
      rw [write, sum_encodedLength fun v _ => encodedLength_eq v, foldl_write ih, encode_list,
        Item.ofPayload, List.append_assoc]

end Value

/-!
## Fields in turn
-/

/-- If all fields can be written, the pushes leave their encodings; else both fail alike. -/
def Fields.PushedBy {α : Type} (f : Fields α) (pushes : α -> List Push) : Prop :=
  forall x out, (Push.inTurn (pushes x) out).result = (f.encode x).map (fun b => out ++ b)

/-- Whatever a buffer holds, the encoding is put behind it, or nothing if there is none. -/
def Codec.WrittenBy {α : Type} (c : Codec α) (w : Writer α) : Prop :=
  forall x out, w x out = .appending out (c.encode x)

namespace Push

theorem result_inTurn_cons {push : Push} {out : Bytes} {encoding : Except EncodeFault Bytes}
    (hpush : push out = .appending out encoding) (pushes : List Push) :
    (inTurn (push :: pushes) out).result =
      encoding >>= fun e => (inTurn pushes (out ++ e)).result := by
  rw [inTurn, hpush]
  cases encoding <;> rfl

theorem enclosed_eq {pushes : List Push} {encoding : Except EncodeFault Bytes}
    (h : (inTurn pushes []).result = encoding) (out : Bytes) :
    enclosed pushes out = .appending out (encoding.map Item.ofPayload) := by
  subst h
  unfold enclosed
  cases inTurn pushes [] <;> rfl

theorem envelope_eq (type : UInt8) (payload out : Bytes) :
    envelope type payload out = .appending out (TypedEnvelope.encode type payload) := by
  unfold envelope TypedEnvelope.encode
  split <;> rfl

end Push

namespace Fields.PushedBy

variable {α β : Type} {c : Codec α} {w : Writer α} {g : Fields β} {pushes : β -> List Push}

theorem one (hc : c.WrittenBy w) : (one c).PushedBy fun x => [w x] := by
  intro x out
  rw [Push.result_inTurn_cons (hc x out)]
  show _ = (c.encode x).map _
  cases c.encode x <;> rfl

theorem optional (hc : c.WrittenBy w) : (optional c).PushedBy fun x => x.toList.map w := by
  intro x out
  cases x with
  | none =>
      simp [Push.inTurn, Written.result, Fields.optional, Except.map]
  | some x =>
      exact one hc x out

theorem cons (hc : c.WrittenBy w) (hg : g.PushedBy pushes) :
    (cons c g).PushedBy fun p => w p.1 :: pushes p.2 := by
  intro p out
  rw [Push.result_inTurn_cons (hc p.1 out)]
  show _ = Except.map _ (c.encode p.1 >>= fun first =>
    g.encode p.2 >>= fun second => pure (first ++ second))
  cases c.encode p.1 with
  | error e =>
      rfl
  | ok first =>
      show (Push.inTurn (pushes p.2) (out ++ first)).result = _
      rw [hg]
      cases g.encode p.2 with
      | error e =>
          rfl
      | ok second =>
          simp [Bind.bind, Except.bind, Except.map, pure, Except.pure]

end Fields.PushedBy

namespace Codec

section Combining

variable {α β : Type} {c : Codec α} {w : Writer α}

theorem WrittenBy.of_ok {view : α -> Bytes} (hc : forall x, c.encode x = .ok (view x))
    (hw : forall x out, w x out = .ok (out ++ view x)) : c.WrittenBy w := by
  intro x out
  rw [hw, hc]
  rfl

theorem WrittenBy.through (hc : c.WrittenBy w) {view : β -> α} {build : α -> β} :
    (c.through view build).WrittenBy fun y => w (view y) :=
  fun y out => hc (view y) out

theorem WrittenBy.record {f : Fields α} {pushes : α -> List Push} {item : String}
    (hf : f.PushedBy pushes) : (record item f).WrittenBy fun x => .enclosed (pushes x) := by
  intro x out
  apply Push.enclosed_eq
  rw [hf x []]
  cases f.encode x <;> rfl

theorem WrittenBy.result_inTurn (hc : c.WrittenBy w) (xs : List α) (out : Bytes) :
    (Push.inTurn (xs.map w) out).result = (c.encodeAll xs).map fun b => out ++ b := by
  induction xs generalizing out with
  | nil =>
      simp [Push.inTurn, Written.result, encodeAll, Except.map, pure, Except.pure]
  | cons x xs ih =>
      rw [List.map_cons, Push.result_inTurn_cons (hc x out)]
      cases hx : c.encode x with
      | error e =>
          rw [encodeAll, Outcome.mapM_cons_error hx]
          rfl
      | ok e =>
          show (Push.inTurn (xs.map w) (out ++ e)).result = _
          rw [ih, encodeAll, encodeAll, Outcome.mapM_cons_ok hx]
          cases xs.mapM c.encode <;> simp [Except.map]

theorem WrittenBy.list (hc : c.WrittenBy w) : (list c).WrittenBy (.list w) := by
  intro xs out
  apply Push.enclosed_eq
  rw [hc.result_inTurn]
  cases c.encodeAll xs <;> rfl

theorem WrittenBy.whole_eq (hc : c.WrittenBy w) (x : α) : w.whole x = c.encode x := by
  rw [Writer.whole, hc, Written.result_appending_nil]

end Combining

/-!
## Single fields
-/

theorem uint_writtenBy (width : Nat) : (uint width).WrittenBy .uint :=
  .of_ok (fun _ => rfl) (fun _ _ => rfl)

theorem octets_writtenBy (width : Nat) : (octets width).WrittenBy .octets :=
  .of_ok (fun _ => rfl) (fun _ _ => rfl)

theorem bytes_writtenBy : bytes.WrittenBy .bytes :=
  .of_ok (fun _ => rfl) (fun _ _ => rfl)

theorem bool_writtenBy : bool.WrittenBy .bool :=
  .of_ok (fun _ => rfl) (fun _ _ => rfl)

theorem raw_writtenBy : raw.WrittenBy .raw :=
  .of_ok (fun _ => rfl) (fun _ _ => rfl)

theorem value_writtenBy : value.WrittenBy .value :=
  .of_ok (fun _ => rfl) (fun v out => congrArg Written.ok (v.write_eq out))

end Codec
end ChainWire
