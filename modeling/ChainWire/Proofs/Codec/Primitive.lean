import ChainWire.Proofs.Codec.Basic
import ChainWire.RawItem

/-!
# The laws of single fields

Integers, byte strings and booleans are strict: the shortest digits, the exact
width and the two truth values leave one encoding each.  A raw item is read and
written as it is, so it is strict as far as it is an item at all.
-/

namespace ChainWire

open Header (payloadLimit)

namespace Uint

variable {width : Nat}

theorem length_trimmed_le (n : Uint width) : n.trimmed.length <= width :=
  (BigEndian.length_encode_le_iff _ _).mpr n.isLt

theorem isWhole_encode (hwidth : width < payloadLimit) (n : Uint width) :
    Item.IsWhole n.encode :=
  ⟨false, n.trimmed, rfl, Nat.lt_of_le_of_lt n.length_trimmed_le hwidth⟩

theorem encode_of_lt (n : Uint width) (hne : n.toNat ≠ 0) (hlt : n.toNat < Header.stringBase) :
    n.encode = [UInt8.ofNat n.toNat] := by
  have hbyte : n.toNat < 256 := Nat.lt_trans hlt (by decide)
  have hbare : (UInt8.ofNat n.toNat).toNat < Header.stringBase := by
    rw [UInt8.toNat_ofNat_of_lt' hbyte]
    exact hlt
  rw [encode, trimmed, BigEndian.encode_of_lt hne hbyte, Item.ofString, if_pos hbare]

theorem decodeDigits_itemWise (width : Nat) : (decodeDigits width).ItemWise :=
  Decoder.ItemWise.string.andThen fun _ => .ite .fail (.dite (fun _ => .ok) fun _ => .fail)

theorem decode_itemWise : (decode : Decoder (Uint width)).ItemWise :=
  (decodeDigits_itemWise width).map _

theorem decode_ofString_encode (n : Uint width) (h : n.trimmed.length < payloadLimit) :
    decode n.encode = .ok n [] := by
  have hwidth := n.length_trimmed_le
  have hhead : n.trimmed.head? ≠ some 0 := BigEndian.head?_encode _
  have hdigits : decodeDigits width n.encode = .ok ⟨n.trimmed, hwidth⟩ [] := by
    simp [decodeDigits, encode, Item.string_ofString h, hhead, hwidth]
  show (decodeDigits width n.encode).map _ = _
  rw [hdigits, Read.map_ok]
  congr 1
  exact Uint.ext (BigEndian.decode_encode n.toNat)

theorem eq_encode_of_decode {b rest : Bytes} {n : Uint width} (h : decode b = .ok n rest) :
    b = n.encode ++ rest := by
  rcases Read.map_eq_ok h with ⟨digits, hdigits, rfl⟩
  rcases Read.andThen_eq_ok hdigits with ⟨data, left, hstring, hread⟩
  split at hread
  · cases hread
  rename_i hhead
  split at hread
  · cases hread
    rcases Item.eq_ofString_of_string hstring with ⟨rfl, _⟩
    have hdata : BigEndian.encode (BigEndian.decode data) = data :=
      BigEndian.encode_decode (by simpa using hhead)
    simp [encode, trimmed, hdata]
  · cases hread

end Uint

namespace Codec

theorem uint_strict (width : Nat) : (uint width).Strict where
  itemWise := Uint.decode_itemWise
  roundTrips := by
    intro n e he
    cases he
    exact ⟨false, n.trimmed, rfl, Uint.decode_ofString_encode n⟩
  canonical := by
    intro e n h
    simpa [uint] using (Uint.eq_encode_of_decode h).symm

theorem octets_strict (width : Nat) : (octets width).Strict := by
  apply Strict.of_string Octets.bytes
  · intro x
    rfl
  · intro b
    rfl
  · intro data
    exact .dite (fun _ => .ok) fun _ => .fail
  · intro x
    simp [x.length_eq]
  · intro data x h
    split at h
    · cases h
      rfl
    · cases h

theorem bytes_strict : bytes.Strict := by
  apply Strict.of_string id
  · intro data
    rfl
  · intro b
    show Item.string b = (Item.string b).andThen .ok
    cases Item.string b <;> rfl
  · intro data
    exact .ok
  · intro data
    rfl
  · intro data x h
    cases h
    rfl

theorem bool_strict : bool.Strict where
  itemWise := Uint.decode_itemWise.andThen fun _ => .ite .ok (.ite .ok .fail)
  roundTrips := by
    intro b e he
    cases he
    refine ⟨false, if b then [1] else [], rfl, fun _ => ?_⟩
    cases b <;> rfl
  canonical := by
    intro e b h
    rcases Read.andThen_eq_ok h with ⟨n, left, hn, hread⟩
    have he := Uint.eq_encode_of_decode hn
    split at hread
    · rename_i hzero
      cases hread
      simp [bool, he, Uint.encode, Uint.trimmed, hzero, BigEndian.encode_zero]
    · split at hread
      · rename_i hone
        cases hread
        have hdigit : BigEndian.encode 1 = [1] := BigEndian.encode_of_lt (by decide) (by decide)
        simp [bool, he, Uint.encode, Uint.trimmed, hone, hdigit]
      · cases hread

end Codec

theorem Uint.decode_eq_ok_iff {width : Nat} (hwidth : width < payloadLimit) {b rest : Bytes}
    {n : Uint width} : decode b = .ok n rest <-> b = n.encode ++ rest := by
  constructor
  · exact eq_encode_of_decode
  · intro hb
    exact (Codec.uint_strict width).decode_eq_ok_iff.mpr ⟨_, rfl, n.isWhole_encode hwidth, hb⟩

theorem Octets.isWhole_encode {width : Nat} (hwidth : width < payloadLimit) (x : Octets width) :
    Item.IsWhole x.encode :=
  ⟨false, x.bytes, rfl, by rwa [x.length_eq]⟩

theorem Octets.decode_eq_ok_iff {width : Nat} (hwidth : width < payloadLimit) {b rest : Bytes}
    {x : Octets width} : decode b = .ok x rest <-> b = x.encode ++ rest := by
  constructor
  · intro h
    rcases (Codec.octets_strict width).decode_eq_ok_iff.mp h with ⟨e, he, _, hb⟩
    cases he
    exact hb
  · intro hb
    exact (Codec.octets_strict width).decode_eq_ok_iff.mpr
      ⟨_, rfl, x.isWhole_encode hwidth, hb⟩

/-!
## Raw items
-/

namespace Item

theorem span_wrap_append {isList : Bool} {payload : Bytes} (h : payload.length < payloadLimit)
    (rest : Bytes) :
    span (wrap isList payload ++ rest) = .ok (wrap isList payload).length := by
  rw [span, header_wrap_append h]
  cases isList with
  | false =>
      rcases ofString_cases payload with ⟨x, hx, rfl, hbare⟩ | ⟨hwritten, _⟩
      · simp [hbare, startsBare_cons, hx]
      · have hheader := Header.not_startsBare_encode_append (h := Header.string payload.length)
          (Header.lt_bound_of_lt_payloadLimit h) (payload ++ rest)
        rw [wrap_false, hwritten, List.append_assoc, hheader, List.length_append,
          Header.length_encode]
        rfl
  | true =>
      have hheader := Header.not_startsBare_encode_append (h := Header.list payload.length)
        (Header.lt_bound_of_lt_payloadLimit h) (payload ++ rest)
      rw [wrap_true, ofPayload, List.append_assoc, hheader, List.length_append,
        Header.length_encode]
      rfl

theorem IsWhole.span_append {e : Bytes} (h : IsWhole e) (rest : Bytes) :
    span (e ++ rest) = .ok e.length := by
  rcases h with ⟨isList, payload, rfl, hlimit⟩
  exact span_wrap_append hlimit rest

theorem IsWhole.span_eq {e : Bytes} (h : IsWhole e) : span e = .ok e.length := by
  simpa using h.span_append []

/-- The span of the input is the length of the whole item in front. -/
theorem exists_isWhole_of_span {b : Bytes} {n : Nat} (h : span b = .ok n) :
    exists e rest, IsWhole e ∧ b = e ++ rest ∧ n = e.length := by
  cases hheader : Header.decode b with
  | fail e tail =>
      rw [span, hheader] at h
      cases h
  | ok header tail =>
      rcases header_eq_ok hheader with ⟨payload, rest, rfl, hlimit, _, _⟩
      rw [span_wrap_append hlimit] at h
      cases h
      exact ⟨_, rest, isWhole_wrap hlimit, rfl, rfl⟩

end Item

namespace RawItem

theorem wellFormed_iff_isWhole (r : RawItem) : r.WellFormed <-> Item.IsWhole r.bytes := by
  constructor
  · intro h
    rcases Item.exists_isWhole_of_span h with ⟨e, rest, hwhole, hbytes, hlength⟩
    have hrest : rest = [] := by
      rw [hbytes, List.length_append] at hlength
      exact List.length_eq_zero_iff.mp (by omega)
    rw [hrest, List.append_nil] at hbytes
    rwa [hbytes]
  · intro h
    exact h.span_eq

theorem length_le_of_mem {rs : List RawItem} {r : RawItem} (hr : r ∈ rs) :
    r.bytes.length <= (rs.flatMap bytes).length :=
  (List.sublist_flatten_of_mem (List.mem_map_of_mem hr)).length_le

theorem decode_append {e : Bytes} (h : Item.IsWhole e) (rest : Bytes) :
    decode (e ++ rest) = .ok ⟨e⟩ rest := by
  simp [decode, h.span_append]

theorem decode_itemWise : decode.ItemWise := by
  apply Decoder.ItemWise.of_wrap
  · intro b rest e h
    simp [decode, Item.span, h, Read.result]
  · intro isList payload hlimit
    refine ⟨.ok ⟨Item.wrap isList payload⟩ [], ?_, decode_append (Item.isWhole_wrap hlimit)⟩
    intro r left h
    cases h
    rfl

theorem eq_append_of_decode {b rest : Bytes} {r : RawItem} (h : decode b = .ok r rest) :
    Item.IsWhole r.bytes ∧ b = r.bytes ++ rest := by
  rcases decode_itemWise.split h with ⟨e, hwhole, rfl, _⟩
  cases (decode_append hwhole rest).symm.trans h
  exact ⟨hwhole, rfl⟩

theorem run_decode (parts : List Bytes) (h : forall e, e ∈ parts -> Item.IsWhole e) :
    Decoder.Run decode parts.flatten (parts.map RawItem.mk) := by
  induction parts with
  | nil =>
      exact Decoder.Run.nil
  | cons e parts ih =>
      exact Decoder.Run.cons (decode_append (h e (by simp)) _)
        (ih fun e' he' => h e' (by simp [he']))

end RawItem

namespace Codec

theorem raw_roundTripsAt {r : RawItem} (h : r.WellFormed) : raw.RoundTripsAt r := by
  intro e he
  cases he
  rcases (RawItem.wellFormed_iff_isWhole r).mp h with ⟨isList, payload, hbytes, hlimit⟩
  refine ⟨isList, payload, hbytes, fun _ => ?_⟩
  have hread := RawItem.decode_append ((RawItem.wellFormed_iff_isWhole r).mp h) []
  rwa [List.append_nil] at hread

theorem raw_canonicalAt (e : Bytes) : raw.CanonicalAt e := by
  intro r h
  have he := (RawItem.eq_append_of_decode h).2
  rw [List.append_nil] at he
  subst he
  rfl

theorem list_raw_decode {parts : List Bytes} {b : Bytes} (h : Item.IsListOf parts b) :
    (list raw).decode b = .ok (parts.map RawItem.mk) [] := by
  rcases h with ⟨rfl, hlimit, hparts⟩
  exact (list_decode_eq_ok_iff RawItem.decode_itemWise).mpr
    ⟨parts.flatten, by simp, hlimit, RawItem.run_decode parts hparts⟩

end Codec
end ChainWire
