import ChainWire.Proofs.Value.RoundTrip

/-!
# Values are told apart by their encodings

Two values with the same encoding are equal, and no encoding is the front of
another one.  For values that can be read this is what reading back says; the
argument here needs no reader, so it has neither of the reader's limits.  It
goes from headers to items and from items to trees.
-/

namespace ChainWire
namespace Value

theorem eq_of_flatMap_eq {α : Type} {f : α -> Bytes} {xs ys : List α}
    (hne : forall x, f x ≠ [])
    (hfront : forall x, x ∈ xs -> forall y, y ∈ ys -> forall {r s : Bytes},
      f x ++ r = f y ++ s -> x = y ∧ r = s)
    (heq : xs.flatMap f = ys.flatMap f) : xs = ys := by
  induction xs generalizing ys with
  | nil =>
      cases ys with
      | nil =>
          rfl
      | cons y ys =>
          exact absurd (List.append_eq_nil_iff.mp heq.symm).1 (hne y)
  | cons x xs ih =>
      cases ys with
      | nil =>
          exact absurd (List.append_eq_nil_iff.mp heq).1 (hne x)
      | cons y ys =>
          rw [List.flatMap_cons, List.flatMap_cons] at heq
          rcases hfront x (by simp) y (by simp) heq with ⟨rfl, htail⟩
          have hxs : xs = ys := by
            apply ih _ htail
            intro u hu w hw
            exact hfront u (by simp [hu]) w (by simp [hw])
          rw [hxs]

theorem isList_payload_of_encode_append {v w : Value} {r s : Bytes}
    (hv : v.encode.length < BigEndian.bound 8) (hw : w.encode.length < BigEndian.bound 8)
    (heq : v.encode ++ r = w.encode ++ s) :
    v.isList = w.isList ∧ v.payload = w.payload ∧ r = s := by
  rw [encode_eq_wrap, encode_eq_wrap] at heq
  exact Item.wrap_append_inj (length_payload_lt_of_encode hv) (length_payload_lt_of_encode hw) heq

theorem length_encode_lt_of_mem {v : Value} {items : List Value} {n : Nat} (hv : v ∈ items)
    (hlength : (list items).encode.length < n) : v.encode.length < n :=
  Nat.lt_of_le_of_lt (length_encode_le_of_mem hv) (length_payload_lt_of_encode hlength)

/-- An encoding tells the value and where it ends, whatever follows. -/
theorem encode_append_injective {v w : Value} {r s : Bytes}
    (hv : v.encode.length < BigEndian.bound 8) (hw : w.encode.length < BigEndian.bound 8)
    (heq : v.encode ++ r = w.encode ++ s) : v = w ∧ r = s := by
  -- One tree shrinks; that the other has the same form and payload makes it shrink as well.
  induction v using inductionOnItems generalizing w r s with
  | bytes data =>
      rcases isList_payload_of_encode_append hv hw heq with ⟨hform, hpayload, hrest⟩
      cases w with
      | list items' =>
          cases hform
      | bytes data' =>
          exact ⟨congrArg bytes hpayload, hrest⟩
  | list items ih =>
      rcases isList_payload_of_encode_append hv hw heq with ⟨hform, hpayload, hrest⟩
      cases w with
      | bytes data' =>
          cases hform
      | list items' =>
          have hitems : items = items' := by
            apply eq_of_flatMap_eq encode_ne_nil _ hpayload
            intro u hu u' hu' r s h
            exact ih u hu (length_encode_lt_of_mem hu hv) (length_encode_lt_of_mem hu' hw) h
          exact ⟨congrArg list hitems, hrest⟩

/-- A list one level too deep to be read, in front of one byte. -/
theorem encode_append_injective_tower :
    (tower 129).encode.length < BigEndian.bound 8 ∧
      (list [tower 128]).encode.length < BigEndian.bound 8 ∧
      (tower 129).encode ++ [1] = (list [tower 128]).encode ++ [1] ∧
      tower 129 = list [tower 128] ∧ ([1] : Bytes) = [1] := by
  have hlength : (tower 129).encode.length < BigEndian.bound 8 :=
    Nat.lt_of_le_of_lt (length_encode_tower (by decide)) (by decide)
  have heq : (tower 129).encode ++ [1] = (list [tower 128]).encode ++ [1] := rfl
  exact ⟨hlength, hlength, heq, encode_append_injective hlength hlength heq⟩

end Value
end ChainWire
