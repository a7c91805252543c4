import ChainWire.Proofs.Reading
import ChainWire.Value

/-!
# The structure of values

A value is an item around its payload: the bytes of a byte string, or the
encodings of the items of a list.  Its nodes are all the values inside it, each
with the number of lists that enclose it.
-/

namespace ChainWire
namespace Value

def payload : Value -> Bytes
  | bytes data => data
  | list items => items.flatMap encode

/-- Every value inside a value, itself included, with the number of lists around it. -/
def nodes : Value -> List (Nat × Value)
  | bytes data => [(0, bytes data)]
  | list items =>
      (0, list items) :: items.flatMap fun v => (nodes v).map fun m => (m.1 + 1, m.2)

/-- Whether every node is enclosed in fewer lists than there are levels. -/
def FitsIn (levels : Nat) (v : Value) : Prop :=
  forall m, m ∈ v.nodes -> m.1 < levels

/-- Induction over values, with a hypothesis for every item of a list. -/
@[elab_as_elim]
theorem inductionOnItems {P : Value -> Prop} (v : Value) (bytes : forall data, P (bytes data))
    (list : forall items, (forall v, v ∈ items -> P v) -> P (list items)) : P v := by
  induction v using encode.induct with
  | case1 data =>
      exact bytes data
  | case2 items ih =>
      exact list items ih

/-!
## Payloads
-/

theorem encode_bytes (data : Bytes) : (bytes data).encode = Item.ofString data := by
  rw [encode]

theorem encode_list (items : List Value) :
    (list items).encode = Item.ofPayload (list items).payload := by
  rw [encode, payload]

theorem encode_eq_wrap (v : Value) : v.encode = Item.wrap v.isList v.payload := by
  cases v with
  | bytes data =>
      exact encode_bytes data
  | list items =>
      exact encode_list items

theorem encode_ne_nil (v : Value) : v.encode ≠ [] := by
  rw [encode_eq_wrap]
  exact Item.wrap_ne_nil _ _

theorem length_payload_le_length_encode (v : Value) :
    v.payload.length <= v.encode.length := by
  rw [encode_eq_wrap]
  exact Item.length_payload_le_length_wrap _ _

theorem length_payload_lt_of_encode {v : Value} {n : Nat} (h : v.encode.length < n) :
    v.payload.length < n :=
  Nat.lt_of_le_of_lt (length_payload_le_length_encode v) h

theorem length_encode_le_of_mem {v : Value} {items : List Value} (h : v ∈ items) :
    v.encode.length <= (list items).payload.length := by
  rcases List.append_of_mem h with ⟨before, after, rfl⟩
  simp only [payload, List.flatMap_append, List.flatMap_cons, List.length_append]
  omega

theorem length_payload_le_of_mem {v : Value} {items : List Value} (h : v ∈ items) :
    v.payload.length <= (list items).payload.length :=
  Nat.le_trans (length_payload_le_length_encode v) (length_encode_le_of_mem h)

/-!
## Nodes
-/

theorem nodes_bytes (data : Bytes) : (bytes data).nodes = [(0, bytes data)] := by
  rw [nodes]

theorem mem_nodes_list {items : List Value} {m : Nat × Value} :
    m ∈ (list items).nodes <->
      m = (0, list items) ∨ exists v, v ∈ items ∧ exists n, n ∈ v.nodes ∧ m = (n.1 + 1, n.2) := by
  rw [nodes]
  simp [eq_comm]

theorem self_mem_nodes (v : Value) : (0, v) ∈ v.nodes := by
  cases v with
  | bytes data =>
      simp [nodes_bytes]
  | list items =>
      exact mem_nodes_list.mpr (Or.inl rfl)

theorem mem_nodes_of_mem {v : Value} {items : List Value} {m : Nat × Value} (hv : v ∈ items)
    (hm : m ∈ v.nodes) : (m.1 + 1, m.2) ∈ (list items).nodes :=
  mem_nodes_list.mpr (Or.inr ⟨v, hv, m, hm, rfl⟩)

theorem not_fitsIn_zero (v : Value) : ¬ v.FitsIn 0 := by
  intro h
  exact absurd (h _ (self_mem_nodes v)) (Nat.not_lt_zero _)

theorem fitsIn_list_succ (levels : Nat) (items : List Value) :
    (list items).FitsIn (levels + 1) <-> forall v, v ∈ items -> v.FitsIn levels := by
  constructor
  · intro h v hv m hm
    exact Nat.lt_of_succ_lt_succ (h _ (mem_nodes_of_mem hv hm))
  · intro h m hm
    rcases mem_nodes_list.mp hm with rfl | ⟨v, hv, n, hn, rfl⟩
    · exact Nat.succ_pos levels
    · exact Nat.succ_lt_succ (h v hv n hn)

theorem length_payload_le_of_mem_nodes {v : Value} {m : Nat × Value} (hm : m ∈ v.nodes) :
    m.2.payload.length <= v.payload.length := by
  induction v using inductionOnItems generalizing m with
  | bytes data =>
      rw [nodes_bytes, List.mem_singleton] at hm
      subst hm
      exact Nat.le_refl _
  | list items ih =>
      rcases mem_nodes_list.mp hm with rfl | ⟨v, hv, n, hn, rfl⟩
      · exact Nat.le_refl _
      · have hinner := ih v hv hn
        exact Nat.le_trans hinner (length_payload_le_of_mem hv)

/-!
## Reading the two forms
-/

theorem decodeWithin_ofString_append {data : Bytes} (h : data.length < Header.payloadLimit)
    (levels : Nat) (rest : Bytes) :
    decodeWithin (levels + 1) (Item.ofString data ++ rest) = .ok (bytes data) rest := by
  rw [decodeWithin, ← Item.wrap_false, Item.header_wrap_append h]
  simp

theorem decodeWithin_ofPayload_append {data : Bytes} (h : data.length < Header.payloadLimit)
    (levels : Nat) (rest : Bytes) :
    decodeWithin (levels + 1) (Item.ofPayload data ++ rest) =
      match Decoder.items (decodeWithin levels) data with
      | .ok items _ => .ok (list items) rest
      | .fail e _ => .fail e rest := by
  rw [decodeWithin, ← Item.wrap_true, Item.header_wrap_append h, Read.andThen_ok, if_pos rfl]
  show (match Decoder.items (decodeWithin levels) ((data ++ rest).take data.length) with
    | .ok items _ => Read.ok (list items) ((data ++ rest).drop data.length)
    | .fail e _ => .fail e ((data ++ rest).drop data.length)) = _
  rw [List.take_left, List.drop_left]

theorem decodeWithin_itemWise (levels : Nat) : (decodeWithin (levels + 1)).ItemWise := by
  apply Decoder.ItemWise.of_wrap
  · intro b rest e h
    rw [decodeWithin, h]
    rfl
  · intro isList payload hlimit
    cases isList with
    | false =>
        refine ⟨.ok (bytes payload) [], ?_, decodeWithin_ofString_append hlimit levels⟩
        intro v left h
        cases h
        rfl
    | true =>
        have happend := decodeWithin_ofPayload_append hlimit levels
        cases hitems : Decoder.items (decodeWithin levels) payload with
        | ok items after =>
            rw [hitems] at happend
            refine ⟨.ok (list items) [], ?_, happend⟩
            intro v left h
            cases h
            rfl
        | fail e after =>
            rw [hitems] at happend
            refine ⟨.fail e [], ?_, happend⟩
            intro v left h
            cases h

theorem decodeWithin_progresses (levels : Nat) : (decodeWithin levels).Progresses := by
  intro b rest v h
  cases levels with
  | zero =>
      cases h
  | succ levels =>
      exact (decodeWithin_itemWise levels).progresses h

end Value
end ChainWire
