import ChainWire.Chain.BlockRef
import ChainWire.Proofs.Codec.Primitive

/-!
# References to blocks

A reference has no tag, but its two forms differ in length: a hash has 32 bytes
and the digits of a number are at most eight.  So reading a reference is
reading a hash or reading a number, never both, and the form comes back with
the value.
-/

namespace ChainWire

open Header (payloadLimit)

/-- A string of some width is never the digits of an integer of a smaller width. -/
theorem Octets.encode_append_ne {width narrower : Nat} (hnarrower : narrower < width)
    (hwidth : width < BigEndian.bound 8) (x : Octets width) (n : Uint narrower)
    (rest left : Bytes) : x.encode ++ rest ≠ n.encode ++ left := by
  intro heq
  have hdigits := n.length_trimmed_le
  have hbytes : x.bytes = n.trimmed :=
    (Item.wrap_append_inj (by rwa [x.length_eq]) (by omega)
      (show Item.wrap false x.bytes ++ rest = Item.wrap false n.trimmed ++ left from heq)).2.1
  rw [← hbytes, x.length_eq] at hdigits
  exact absurd hnarrower (Nat.not_lt.mpr hdigits)

namespace Codec

/-!
## The laws of references
-/

theorem blockRef_itemWise : blockRef.decode.ItemWise := by
  apply Decoder.ItemWise.peek
  intro h
  cases h.isList with
  | true =>
      exact Or.inr ⟨.unexpectedList, fun _ => rfl⟩
  | false =>
      apply Or.inl
      by_cases hlength : h.payloadLength = 32
      · simp only [hlength, Bool.false_eq_true, if_false, if_true]
        exact (octets_strict 32).itemWise.map _
      · simp only [hlength, Bool.false_eq_true, if_false]
        exact Uint.decode_itemWise.map _

theorem blockRef_roundTripsAt (ref : BlockRef) : blockRef.RoundTripsAt ref := by
  intro e he
  cases ref with
  | hash h =>
      cases he
      refine ⟨false, h.bytes, rfl, ?_⟩
      intro hlimit
      have hwhole : Item.IsWhole (Item.wrap false h.bytes) := Item.isWhole_wrap hlimit
      have hread : Octets.decode h.encode = .ok h [] :=
        ((octets_strict 32).roundTrips h).decode_eq_ok rfl hwhole
      show (Header.peek (Item.wrap false h.bytes)).andThen _ = _
      rw [Header.peek_wrap hlimit, Read.andThen_ok, if_neg Bool.false_ne_true,
        if_pos h.length_eq, Item.wrap_false, ← Octets.encode, hread, Read.map_ok]
  | number n =>
      cases he
      refine ⟨false, n.trimmed, rfl, ?_⟩
      intro hlimit
      have hread := Uint.decode_ofString_encode n hlimit
      -- The digits of a number are fewer than the bytes of a hash.
      have hwidth := n.length_trimmed_le
      have hlength : n.trimmed.length ≠ 32 := by
        omega
      show (Header.peek (Item.wrap false n.trimmed)).andThen _ = _
      rw [Header.peek_wrap hlimit, Read.andThen_ok, if_neg Bool.false_ne_true, if_neg hlength,
        Item.wrap_false, ← Uint.encode, hread, Read.map_ok]

theorem blockRef_canonicalAt (e : Bytes) : blockRef.CanonicalAt e := by
  intro ref h
  rcases Read.andThen_eq_ok h with ⟨header, left, hpeek, hread⟩
  have hleft := Header.eq_of_peek_eq_ok hpeek
  subst hleft
  split at hread
  · cases hread
  split at hread
  · rcases Read.map_eq_ok hread with ⟨hash, hhash, rfl⟩
    exact (octets_strict 32).canonical left hash hhash
  · rcases Read.map_eq_ok hread with ⟨n, hn, rfl⟩
    exact (uint_strict 8).canonical left n hn

theorem blockRef_strict : blockRef.Strict where
  itemWise := blockRef_itemWise
  roundTrips := blockRef_roundTripsAt
  canonical := blockRef_canonicalAt

/-!
## The two forms
-/

theorem blockRef_decode_hash_iff {b rest : Bytes} {h : Hash} :
    blockRef.decode b = .ok (.hash h) rest <-> (octets 32).decode b = .ok h rest := by
  rw [blockRef_strict.decode_eq_ok_iff, (octets_strict 32).decode_eq_ok_iff]
  rfl

theorem blockRef_decode_number_iff {b rest : Bytes} {n : Uint 8} :
    blockRef.decode b = .ok (.number n) rest <-> (uint 8).decode b = .ok n rest := by
  rw [blockRef_strict.decode_eq_ok_iff, (uint_strict 8).decode_eq_ok_iff]
  rfl

theorem not_octets_and_uint {b rest left : Bytes} {h : Hash} {n : Uint 8}
    (hhash : (octets 32).decode b = .ok h rest) : (uint 8).decode b ≠ .ok n left := by
  intro hnumber
  have hb := (Octets.decode_eq_ok_iff (by decide)).mp hhash
  exact Octets.encode_append_ne (by decide) (by decide) h n rest left
    (hb.symm.trans (Uint.eq_encode_of_decode hnumber))

theorem blockRef_encode_eq_ok (ref : BlockRef) :
    exists e, blockRef.encode ref = .ok e ∧ Item.IsWhole e := by
  cases ref with
  | hash h =>
      exact ⟨h.encode, rfl, h.isWhole_encode (by decide)⟩
  | number n =>
      exact ⟨n.encode, rfl, n.isWhole_encode (by decide)⟩

theorem blockRef_result_of_not_octets {b : Bytes}
    (hhash : forall h rest, (octets 32).decode b ≠ .ok h rest) :
    (blockRef.decode b).result = ((uint 8).decode b).result.map .number := by
  cases hheader : Header.decode b with
  | fail e tail =>
      rw [blockRef_itemWise.fault hheader, (uint_strict 8).itemWise.fault hheader]
      rfl
  | ok header tail =>
      have hpeek : Header.peek b = .ok header b := by
        rw [Header.peek, hheader]
      rcases Item.header_eq_ok hheader with ⟨payload, left, hb, hlimit, hlength, _⟩
      cases hlist : header.isList with
      | true =>
          have hstring : Item.string b = .fail .unexpectedList (payload ++ left) := by
            rw [hb, hlist]
            exact Item.string_ofPayload_append hlimit left
          simp [blockRef, uint, Uint.decode, Uint.decodeDigits, Decoder.map, hpeek, hlist, hstring,
            Read.result, Except.map]
      | false =>
          have hwidth : payload.length ≠ 32 := by
            intro hwidth
            apply hhash ⟨payload, hwidth⟩ left
            exact (Octets.decode_eq_ok_iff (by decide)).mpr (by rw [hb, hlist]; rfl)
          simp only [blockRef, uint, hpeek, Read.andThen_ok, hlist, hlength, hwidth,
            Bool.false_eq_true, if_false]
          cases (Uint.decode b : Read (Uint 8)) <;> rfl

/--
A reference is read as a hash exactly where a hash is, as a number exactly where
a number is, and these are never the same bytes.  Where neither is read the
fault is that of the number.  No hash is written like a number, so a reference
keeps its form and its bytes.
-/
theorem blockRef_decode_disjoint (b : Bytes) :
    (forall h rest,
      blockRef.decode b = .ok (.hash h) rest <-> (octets 32).decode b = .ok h rest) ∧
    (forall n rest,
      blockRef.decode b = .ok (.number n) rest <-> (uint 8).decode b = .ok n rest) ∧
    (forall h n rest left,
      (octets 32).decode b = .ok h rest -> (uint 8).decode b ≠ .ok n left) ∧
    ((forall h rest, (octets 32).decode b ≠ .ok h rest) ->
      (forall n rest, (uint 8).decode b ≠ .ok n rest) ->
        exists e, ((uint 8).decode b).result = .error e ∧
          (blockRef.decode b).result = .error e) ∧
    (forall (h : Hash) (n : Uint 8), (octets 32).encode h ≠ (uint 8).encode n) ∧
    (forall ref rest, blockRef.decode b = .ok ref rest ->
      exists e, blockRef.encode ref = .ok e ∧ b = e ++ rest) ∧
    (forall ref, exists e, blockRef.encode ref = .ok e ∧
      forall rest, blockRef.decode (e ++ rest) = .ok ref rest) := by
  refine ⟨fun _ _ => blockRef_decode_hash_iff, fun _ _ => blockRef_decode_number_iff,
    fun _ _ _ _ => not_octets_and_uint, ?_, ?_, ?_, ?_⟩
  · intro hhash hnumber
    rw [blockRef_result_of_not_octets hhash]
    cases hread : (uint 8).decode b with
    | ok n rest =>
        exact absurd hread (hnumber n rest)
    | fail e rest =>
        exact ⟨e, rfl, rfl⟩
  · intro h n heq
    apply Octets.encode_append_ne (by decide) (by decide) h n [] []
    rw [Except.ok.inj heq]
  · intro ref rest hread
    rcases blockRef_strict.decode_eq_ok_iff.mp hread with ⟨e, he, _, hb⟩
    exact ⟨e, he, hb⟩
  · intro ref
    rcases blockRef_encode_eq_ok ref with ⟨e, he, hwhole⟩
    exact ⟨e, he, fun rest => blockRef_strict.decode_eq_ok_iff.mpr ⟨e, he, hwhole, rfl⟩⟩

/-- Sixteen bytes are too few for a hash and too many for a number; zeros are a hash as well. -/
theorem blockRef_decode_disjoint_sixteenBytes :
    ((forall h rest, (octets 32).decode (0x90 :: List.replicate 16 1) ≠ .ok h rest) ∧
      (forall n rest, (uint 8).decode (0x90 :: List.replicate 16 1) ≠ .ok n rest) ∧
      exists e, ((uint 8).decode (0x90 :: List.replicate 16 1)).result = .error e ∧
        (blockRef.decode (0x90 :: List.replicate 16 1)).result = .error e) ∧
    ((octets 32).decode (Octets.zero : Hash).encode = .ok Octets.zero [] ∧
      (forall n left, (uint 8).decode (Octets.zero : Hash).encode ≠ .ok n left) ∧
      blockRef.decode (Octets.zero : Hash).encode = .ok (.hash Octets.zero) [] ∧
      exists e, blockRef.encode (.hash Octets.zero) = .ok e ∧
        (Octets.zero : Hash).encode = e ++ []) := by
  have hhash : forall h rest, (octets 32).decode (0x90 :: List.replicate 16 1) ≠ .ok h rest := by
    intro h rest hread
    cases hread
  have hnumber : forall n rest, (uint 8).decode (0x90 :: List.replicate 16 1) ≠ .ok n rest := by
    intro n rest hread
    cases hread
  have hzero : (octets 32).decode (Octets.zero : Hash).encode = .ok Octets.zero [] := rfl
  have hread := ((blockRef_decode_disjoint (Octets.zero : Hash).encode).1 _ _).mpr hzero
  refine ⟨⟨hhash, hnumber, ?_⟩, hzero, ?_, hread, ?_⟩
  · exact (blockRef_decode_disjoint _).2.2.2.1 hhash hnumber
  · intro n left
    exact (blockRef_decode_disjoint _).2.2.1 _ n _ left hzero
  · exact (blockRef_decode_disjoint _).2.2.2.2.2.1 _ _ hread

end Codec
end ChainWire
