import ChainWire.Proofs.Value.Basic

/-!
# Reading written values

What reading makes of a written value is decided by two numbers alone: the
length of its payload and the number of lists around its innermost node.  A
value within both limits is read back, whatever follows it; else the limit that
it exceeds is the fault.
-/

namespace ChainWire
namespace Value

open Header (payloadLimit)

theorem decodeWithin_encode_append {v : Value} {levels : Nat}
    (hpayload : v.payload.length < payloadLimit) (hfits : v.FitsIn levels) (rest : Bytes) :
    decodeWithin levels (v.encode ++ rest) = .ok v rest := by
  induction v using inductionOnItems generalizing levels rest with
  | bytes data =>
      cases levels with
      | zero =>
          exact absurd hfits (not_fitsIn_zero _)
      | succ levels =>
          rw [encode_bytes]
          exact decodeWithin_ofString_append hpayload levels rest
  | list items ih =>
      cases levels with
      | zero =>
          exact absurd hfits (not_fitsIn_zero _)
      | succ levels =>
          have hitems := (fitsIn_list_succ levels items).mp hfits
          have hrun : Decoder.Run (decodeWithin levels) (list items).payload items :=
            Decoder.Run.of_flatMap fun v hv after =>
              ih v hv (Nat.lt_of_le_of_lt (length_payload_le_of_mem hv) hpayload)
                (hitems v hv) after
          rw [encode_list, decodeWithin_ofPayload_append hpayload,
            hrun.items_eq_ok (decodeWithin_progresses levels)]

theorem decodeWithin_encode_append_of_not_fitsIn {v : Value} {levels : Nat}
    (hpayload : v.payload.length < payloadLimit) (hdeep : ¬ v.FitsIn levels) (rest : Bytes) :
    (decodeWithin levels (v.encode ++ rest)).result = .error (.malformed .nestingTooDeep) := by
  induction v using inductionOnItems generalizing levels rest with
  | bytes data =>
      cases levels with
      | zero =>
          rfl
      | succ levels =>
          apply absurd _ hdeep
          intro m hm
          rw [nodes_bytes, List.mem_singleton] at hm
          rw [hm]
          exact Nat.succ_pos levels
  | list items ih =>
      cases levels with
      | zero =>
          rfl
      | succ levels =>
          have hsmall (v : Value) (hv : v ∈ items) : v.payload.length < payloadLimit :=
            Nat.lt_of_le_of_lt (length_payload_le_of_mem hv) hpayload
          have hsome : exists v, v ∈ items ∧ ¬ v.FitsIn levels := by
            simpa [fitsIn_list_succ] using hdeep
          have hresult : (Decoder.items (decodeWithin levels) (list items).payload).result =
              .error (.malformed .nestingTooDeep) :=
            Decoder.items_flatMap_fault (decodeWithin_progresses levels)
              (fun v hv hfits after => decodeWithin_encode_append (hsmall v hv) hfits after)
              (fun v hv hbad => ⟨encode_ne_nil v, ih v hv (hsmall v hv) hbad⟩) hsome
          rw [encode_list, decodeWithin_ofPayload_append hpayload]
          cases hread : Decoder.items (decodeWithin levels) (list items).payload with
          | ok vs left =>
              rw [hread] at hresult
              cases hresult
          | fail e left =>
              rw [hread] at hresult
              cases hresult
              rfl

theorem fitsIn_succ_maxDepth (v : Value) :
    v.FitsIn (maxDepth + 1) <-> forall m, m ∈ v.nodes -> m.1 <= maxDepth := by
  constructor
  · intro h m hm
    exact Nat.le_of_lt_succ (h m hm)
  · intro h m hm
    exact Nat.lt_succ_of_le (h m hm)

/-- Reading a written value: refused if too long, read back if not too deep, else refused. -/
theorem decode_encode_append_limits (v : Value) (rest : Bytes)
    (h : v.encode.length < BigEndian.bound 8) :
    (payloadLimit <= v.payload.length ->
      (decode (v.encode ++ rest)).result = .error (.malformed .lengthTooWide)) ∧
    (v.payload.length < payloadLimit -> (forall m, m ∈ v.nodes -> m.1 <= maxDepth) ->
      decode (v.encode ++ rest) = .ok v rest) ∧
    (v.payload.length < payloadLimit -> (exists m, m ∈ v.nodes ∧ maxDepth < m.1) ->
      (decode (v.encode ++ rest)).result = .error (.malformed .nestingTooDeep)) := by
  refine ⟨?_, ?_, ?_⟩
  · intro hlong
    have hlength := Nat.lt_of_le_of_lt (length_payload_le_length_encode v) h
    have hfault : (Header.decode (Item.wrap v.isList v.payload ++ rest)).result = _ :=
      Item.header_fail_of_limit_le hlong hlength rest
    rw [← encode_eq_wrap] at hfault
    rcases hheader : Header.decode (v.encode ++ rest) with ⟨header, tail⟩ | ⟨e, tail⟩
    · rw [hheader] at hfault
      cases hfault
    · rw [hheader] at hfault
      cases hfault
      exact (decodeWithin_itemWise maxDepth).fault hheader
  · intro hshort hdepth
    exact decodeWithin_encode_append hshort ((fitsIn_succ_maxDepth v).mpr hdepth) rest
  · intro hshort hdeep
    apply decodeWithin_encode_append_of_not_fitsIn hshort
    intro hfits
    rcases hdeep with ⟨m, hm, hlt⟩
    exact absurd ((fitsIn_succ_maxDepth v).mp hfits m hm) (Nat.not_le.mpr hlt)

example : (DecodeFault.malformed .lengthTooWide).message =
    "malformed input: length of length exceeds 4 bytes" := by rfl

example : (DecodeFault.malformed .nestingTooDeep).message =
    "malformed input: list nesting exceeds the decoder depth bound" := by rfl

/-!
## Values at the limits
-/

/-- An empty list inside `n` lists. -/
def tower : Nat -> Value
  | 0 => list []
  | n + 1 => list [tower n]

theorem tower_fitsIn (n : Nat) : (tower n).FitsIn (n + 1) := by
  induction n with
  | zero =>
      simp [tower, fitsIn_list_succ]
  | succ n ih =>
      simpa [tower, fitsIn_list_succ] using ih

theorem mem_nodes_tower (n : Nat) : (n, list []) ∈ (tower n).nodes := by
  induction n with
  | zero =>
      exact self_mem_nodes _
  | succ n ih =>
      exact mem_nodes_of_mem (List.mem_singleton.mpr rfl) ih

theorem length_encode_tower {n : Nat} (hn : n <= 1000) :
    (tower n).encode.length <= 9 * n + 9 := by
  induction n with
  | zero =>
      rw [encode_eq_wrap]
      exact Item.length_wrap_le (by decide)
  | succ n ih =>
      have hpayload : (tower (n + 1)).payload = (tower n).encode := by
        simp [tower, payload]
      have hinner := ih (Nat.le_of_succ_le hn)
      have hbound : 9 * n + 9 < BigEndian.bound 8 :=
        Nat.lt_of_le_of_lt (by omega) (by decide : 10000 < BigEndian.bound 8)
      have houter : (tower (n + 1)).encode.length <= (tower (n + 1)).payload.length + 9 := by
        rw [encode_eq_wrap]
        exact Item.length_wrap_le (by rw [hpayload]; omega)
      rw [hpayload] at houter
      omega

/-- One byte too long, just deep enough, and one list too deep. -/
theorem decode_encode_append_at_limits :
    ((bytes (List.replicate payloadLimit 0)).encode.length < BigEndian.bound 8 ∧
      (decode ((bytes (List.replicate payloadLimit 0)).encode ++ [1])).result =
        .error (.malformed .lengthTooWide)) ∧
    ((tower 128).encode.length < BigEndian.bound 8 ∧
      decode ((tower 128).encode ++ [1]) = .ok (tower 128) [1]) ∧
    ((tower 129).encode.length < BigEndian.bound 8 ∧
      (decode ((tower 129).encode ++ [1])).result = .error (.malformed .nestingTooDeep)) := by
  have hlong : (bytes (List.replicate payloadLimit 0)).payload.length = payloadLimit := by
    simp [payload]
  have hlongBound : (bytes (List.replicate payloadLimit 0)).encode.length <
      BigEndian.bound 8 := by
    rw [encode_eq_wrap]
    refine Nat.lt_of_le_of_lt (Item.length_wrap_le ?_) ?_
    · rw [hlong]
      decide
    · rw [hlong]
      decide
  have htower {n : Nat} (hn : n <= 129) : (tower n).encode.length < payloadLimit :=
    Nat.lt_of_le_of_lt (length_encode_tower (by omega))
      (Nat.lt_of_le_of_lt (by omega) (by decide : 10000 < payloadLimit))
  have hpayload {n : Nat} (hn : n <= 129) : (tower n).payload.length < payloadLimit :=
    Nat.lt_of_le_of_lt (length_payload_le_length_encode _) (htower hn)
  have h128 := Header.lt_bound_of_lt_payloadLimit (htower (n := 128) (by decide))
  have h129 := Header.lt_bound_of_lt_payloadLimit (htower (n := 129) (by decide))
  refine ⟨⟨hlongBound, ?_⟩, ⟨h128, ?_⟩, ⟨h129, ?_⟩⟩
  · exact (decode_encode_append_limits _ [1] hlongBound).1 (Nat.le_of_eq hlong.symm)
  · exact (decode_encode_append_limits _ [1] h128).2.1 (hpayload (by decide))
      ((fitsIn_succ_maxDepth _).mp (tower_fitsIn 128))
  · exact (decode_encode_append_limits _ [1] h129).2.2 (hpayload (by decide))
      ⟨_, mem_nodes_tower 129, by decide⟩

end Value
end ChainWire
