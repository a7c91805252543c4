import ChainWire.Proofs.Value.Basic

/-!
# Values have one encoding

Whatever is read as a value is that value as it would be written, followed by
the bytes left over, and it keeps both limits: on the length of payloads and on
the nesting of lists.
-/

namespace ChainWire
namespace Value

open Header (payloadLimit)

theorem decodeWithin_eq_ok {levels : Nat} {b rest : Bytes} {v : Value}
    (h : decodeWithin levels b = .ok v rest) :
    b = v.encode ++ rest ∧ v.payload.length < payloadLimit ∧ v.FitsIn levels := by
  induction levels generalizing b rest v with
  | zero =>
      cases h
  | succ levels ih =>
      rcases (decodeWithin_itemWise levels).split h with ⟨e, ⟨isList, data, rfl, hlimit⟩, rfl, _⟩
      cases isList with
      | false =>
          rw [Item.wrap_false, decodeWithin_ofString_append hlimit] at h
          cases h
          refine ⟨by rw [encode_bytes, Item.wrap_false], hlimit, ?_⟩
          intro m hm
          rw [nodes_bytes, List.mem_singleton] at hm
          rw [hm]
          exact Nat.succ_pos levels
      | true =>
          rw [Item.wrap_true, decodeWithin_ofPayload_append hlimit] at h
          cases hitems : Decoder.items (decodeWithin levels) data with
          | fail e left =>
              rw [hitems] at h
              cases h
          | ok items left =>
              rw [hitems] at h
              cases h
              have hrun := Decoder.run_of_items_eq_ok (decodeWithin_progresses levels) hitems
              have hread {b rest : Bytes} {v : Value}
                  (hv : decodeWithin levels b = .ok v rest) :
                  b = v.encode ++ rest ∧ v.FitsIn levels :=
                ⟨(ih hv).1, (ih hv).2.2⟩
              rcases hrun.eq_flatMap hread with ⟨rfl, hfits⟩
              exact ⟨by rw [encode_list, Item.wrap_true]; rfl, hlimit,
                (fitsIn_list_succ levels items).mpr hfits⟩

/--
Reading accepts nothing but what writing produces, within both limits; so a
value that is the whole input is read from one input only.
-/
theorem eq_encode_append_of_decode_eq_ok :
    (forall (b : Bytes) (v : Value) (rest : Bytes), decode b = .ok v rest ->
      b = v.encode ++ rest ∧
        (forall m, m ∈ v.nodes -> m.1 <= maxDepth) ∧
        (forall m, m ∈ v.nodes -> m.2.payload.length < payloadLimit)) ∧
    (forall (b b' : Bytes) (v : Value),
      Decoder.exact decode b = .ok v -> Decoder.exact decode b' = .ok v -> b = b') := by
  constructor
  · intro b v rest h
    rcases decodeWithin_eq_ok h with ⟨hb, hpayload, hfits⟩
    refine ⟨hb, fun m hm => Nat.le_of_lt_succ (hfits m hm), fun m hm => ?_⟩
    exact Nat.lt_of_le_of_lt (length_payload_le_of_mem_nodes hm) hpayload
  · intro b b' v hb hb'
    rw [Decoder.exact_eq_ok_iff] at hb hb'
    rw [(decodeWithin_eq_ok hb).1, (decodeWithin_eq_ok hb').1]

/-- A list of two words with a byte behind it, and the same list alone. -/
theorem eq_encode_append_of_decode_eq_ok_words :
    (decode [0xC8, 0x83, 99, 97, 116, 0x83, 100, 111, 103, 7] =
        .ok (list [bytes [99, 97, 116], bytes [100, 111, 103]]) [7] ∧
      [0xC8, 0x83, 99, 97, 116, 0x83, 100, 111, 103, 7] =
        (list [bytes [99, 97, 116], bytes [100, 111, 103]]).encode ++ [7]) ∧
    (Decoder.exact decode [0xC8, 0x83, 99, 97, 116, 0x83, 100, 111, 103] =
        .ok (list [bytes [99, 97, 116], bytes [100, 111, 103]]) ∧
      forall b, Decoder.exact decode b =
          .ok (list [bytes [99, 97, 116], bytes [100, 111, 103]]) ->
        [0xC8, 0x83, 99, 97, 116, 0x83, 100, 111, 103] = b) := by
  have hbehind : decode [0xC8, 0x83, 99, 97, 116, 0x83, 100, 111, 103, 7] =
      .ok (list [bytes [99, 97, 116], bytes [100, 111, 103]]) [7] := rfl
  have hwhole : Decoder.exact decode [0xC8, 0x83, 99, 97, 116, 0x83, 100, 111, 103] =
      .ok (list [bytes [99, 97, 116], bytes [100, 111, 103]]) := rfl
  refine ⟨⟨hbehind, ?_⟩, hwhole, ?_⟩
  · exact (eq_encode_append_of_decode_eq_ok.1 _ _ _ hbehind).1
  · intro b hb
    exact eq_encode_append_of_decode_eq_ok.2 _ _ _ hwhole hb

end Value
end ChainWire
