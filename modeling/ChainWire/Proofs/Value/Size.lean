import ChainWire.Proofs.Value.Canonical
import Mathlib.Algebra.Order.BigOperators.Group.List
import Mathlib.Algebra.Order.Group.Nat

/-!
# The size of values

Each node of a value has a first byte of its own in the encoding, and the
strings stand there as they are.  So the encoding bounds the nodes and the
strings, and since nothing but encodings is read, what was taken off an input
bounds the value that was made of it.
-/

namespace ChainWire
namespace Value

def strings (v : Value) : List Bytes :=
  v.nodes.filterMap fun m => m.2.bytes?

theorem strings_bytes (data : Bytes) : (bytes data).strings = [data] := by
  rw [strings, nodes_bytes]
  rfl

theorem strings_list (items : List Value) : (list items).strings = items.flatMap strings := by
  have hitem (v : Value) :
      (v.nodes.map fun m => (m.1 + 1, m.2)).filterMap (fun m => m.2.bytes?) = v.strings := by
    rw [List.filterMap_map]
    rfl
  rw [strings, nodes, List.filterMap_cons_none rfl, List.filterMap_flatMap]
  simp only [hitem]

theorem length_flatMap_le_length_payload {α : Type} {f : Value -> List α} {items : List Value}
    (h : forall v, v ∈ items -> (f v).length <= v.encode.length) :
    (items.flatMap f).length <= (list items).payload.length := by
  rw [payload, List.length_flatMap, List.length_flatMap]
  exact List.sum_le_sum h

theorem length_nodes_le_length_encode (v : Value) : v.nodes.length <= v.encode.length := by
  induction v using inductionOnItems with
  | bytes data =>
      rw [nodes_bytes]
      exact List.length_pos_iff.mpr (encode_ne_nil _)
  | list items ih =>
      have hitems : (items.flatMap fun v => v.nodes.map fun m => (m.1 + 1, m.2)).length <=
          (list items).payload.length :=
        length_flatMap_le_length_payload fun v hv => by
          rw [List.length_map]
          exact ih v hv
      have hheader : 1 <= (Header.list (list items).payload.length).encode.length := by
        rw [Header.length_encode, Header.length]
        split <;> omega
      rw [nodes, List.length_cons, encode_list, Item.ofPayload, List.length_append]
      omega

theorem length_strings_le_length_encode (v : Value) :
    v.strings.flatten.length <= v.encode.length := by
  induction v using inductionOnItems with
  | bytes data =>
      rw [strings_bytes, List.flatten_singleton]
      exact length_payload_le_length_encode (bytes data)
  | list items ih =>
      have hitems : (items.flatMap fun v => v.strings.flatten).length <=
          (list items).payload.length :=
        length_flatMap_le_length_payload ih
      have hstrings : (list items).strings.flatten = items.flatMap fun v => v.strings.flatten := by
        rw [strings_list, ← List.flatMap_id, List.flatMap_assoc]
        simp
      rw [hstrings]
      exact Nat.le_trans hitems (length_payload_le_length_encode _)

/-- A value that is read has no more nodes, and no more bytes in strings, than were taken. -/
theorem size_le_of_decodeWithin {levels : Nat} {b rest : Bytes} {v : Value}
    (h : decodeWithin levels b = .ok v rest) :
    v.nodes.length <= b.length - rest.length ∧
      v.strings.flatten.length <= b.length - rest.length := by
  have hlength : b.length - rest.length = v.encode.length := by
    rw [(decodeWithin_eq_ok h).1, List.length_append, Nat.add_sub_cancel]
  rw [hlength]
  exact ⟨length_nodes_le_length_encode v, length_strings_le_length_encode v⟩

end Value
end ChainWire
