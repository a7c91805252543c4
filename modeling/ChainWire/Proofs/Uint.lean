import ChainWire.Proofs.Codec.Primitive

/-!
# Integers and the numbers that they stand for

An integer travels as the shortest bytes of its number, so its width has no say
in how it is written, only in what can be read.  The shortest bytes are what is
left of all bytes of the integer without the zeros in front, whether these are
counted as bytes or as bits.
-/

namespace ChainWire
namespace Uint

open Header (payloadLimit)

variable {width : Nat}

/-!
## All bytes and the shortest bytes
-/

theorem length_toBytes (n : Uint width) : n.toBytes.length = width :=
  Bytes.length_padLeft n.length_trimmed_le

theorem decode_toBytes (n : Uint width) : BigEndian.decode n.toBytes = n.toNat := by
  rw [toBytes, BigEndian.decode_padLeft, trimmed, BigEndian.decode_encode]

theorem dropWhile_zero_toBytes (n : Uint width) :
    (n.toBytes.dropWhile fun x => x == 0) = n.trimmed := by
  rw [BigEndian.dropWhile_zero_eq_encode, decode_toBytes, trimmed]

theorem drop_leadingZeros_toBytes (n : Uint width) :
    n.toBytes.drop (BigEndian.leadingZeros width n.toNat / 8) = n.trimmed := by
  have hzeros := BigEndian.leadingZeros_le width n.toNat
  have hlength : n.trimmed.length = width - BigEndian.leadingZeros width n.toNat / 8 :=
    BigEndian.length_encode_eq_sub_leadingZeros n.isLt
  apply List.drop_left'
  rw [List.length_replicate, hlength]
  omega

/-!
## What is refused
-/

theorem decodeDigits_of_leadingZero {b payload rest : Bytes}
    (hstring : Item.string b = .ok payload rest) (hzero : payload.head? = some 0) :
    decodeDigits width b = .fail (.nonCanonical .integerLeadingZero) rest := by
  simp [decodeDigits, hstring, hzero]

theorem decodeDigits_of_tooWide {b payload rest : Bytes}
    (hstring : Item.string b = .ok payload rest) (hhead : payload.head? ≠ some 0)
    (hwide : width < payload.length) :
    decodeDigits width b = .fail (.overflow width payload.length) rest := by
  simp [decodeDigits, hstring, hhead, Nat.not_le.mpr hwide]

theorem decode_encode_append_of_bound_le {wider : Nat} (hwider : wider < payloadLimit)
    {n : Uint wider} (hbound : BigEndian.bound width <= n.toNat) (rest : Bytes) :
    (decode (n.encode ++ rest) : Read (Uint width)) =
      .fail (.overflow width n.trimmed.length) rest := by
  have hstring : Item.string (n.encode ++ rest) = .ok n.trimmed rest :=
    Item.string_ofString_append (Nat.lt_of_le_of_lt n.length_trimmed_le hwider) rest
  have hwide : width < n.trimmed.length := by
    rw [← Nat.not_le, trimmed, BigEndian.length_encode_le_iff]
    exact Nat.not_lt.mpr hbound
  show (decodeDigits width _).map _ = _
  rw [decodeDigits_of_tooWide hstring (BigEndian.head?_encode _) hwide, Read.map_fail]

/--
An integer of any width travels as the shortest bytes of its number, which are
all its bytes without the zeros in front.  It is read from those bytes and from
no others, a number that is too great is refused with the number of its bytes,
and a zero byte in front is refused before that.
-/
theorem travels_by_value (n : Nat) :
    (n = 0 <-> BigEndian.encode n = []) ∧
    (forall digits, BigEndian.IsShortest digits n <-> digits = BigEndian.encode n) ∧
    (forall {width : Nat} (m : Uint width), m.toNat = n ->
      m.encode = Item.ofString (BigEndian.encode n) ∧
      m.toBytes.length = width ∧ BigEndian.decode m.toBytes = n ∧
      m.toBytes.drop (BigEndian.leadingZeros width n / 8) = BigEndian.encode n ∧
      (m.toBytes.dropWhile fun x => x == 0) = BigEndian.encode n) ∧
    (forall {width : Nat}, width < payloadLimit -> forall b rest : Bytes,
      (exists m : Uint width, m.toNat = n ∧ decode b = .ok m rest) <->
        n < BigEndian.bound width ∧ b = Item.ofString (BigEndian.encode n) ++ rest) ∧
    (forall {width wider : Nat} (m : Uint wider), m.toNat = n -> wider < payloadLimit ->
      BigEndian.bound width <= n -> forall rest : Bytes,
        (decode (m.encode ++ rest) : Read (Uint width)) =
          .fail (.overflow width (BigEndian.encode n).length) rest) ∧
    (forall (width : Nat) (b payload rest : Bytes), Item.string b = .ok payload rest ->
      payload.head? = some 0 ->
        decodeDigits width b = .fail (.nonCanonical .integerLeadingZero) rest) := by
  refine ⟨(BigEndian.encode_eq_nil_iff n).symm, fun _ => BigEndian.isShortest_iff, ?_, ?_, ?_, ?_⟩
  · rintro width m rfl
    exact ⟨rfl, m.length_toBytes, m.decode_toBytes, m.drop_leadingZeros_toBytes,
      m.dropWhile_zero_toBytes⟩
  · intro width hwidth b rest
    constructor
    · rintro ⟨m, rfl, hread⟩
      exact ⟨m.isLt, eq_encode_of_decode hread⟩
    · rintro ⟨hlt, rfl⟩
      exact ⟨⟨n, hlt⟩, rfl, (decode_eq_ok_iff hwidth).mpr rfl⟩
  · rintro width wider m rfl hwider hbound rest
    exact decode_encode_append_of_bound_le hwider hbound rest
  · intro width b payload rest hstring hzero
    exact decodeDigits_of_leadingZero hstring hzero

/-- The least number of two bytes, where a zero byte comes last and may not come first. -/
theorem travels_by_value_twoBytes :
    ((⟨256, by decide⟩ : Uint 8).encode = [0x82, 0x01, 0x00] ∧
      (⟨256, by decide⟩ : Uint 8).toBytes.drop (BigEndian.leadingZeros 8 256 / 8) =
        [0x01, 0x00]) ∧
    (2 < payloadLimit ∧
      exists m : Uint 2, m.toNat = 256 ∧ decode [0x82, 0x01, 0x00, 0x07] = .ok m [0x07]) ∧
    (8 < payloadLimit ∧ BigEndian.bound 1 <= 256 ∧
      (decode ((⟨256, by decide⟩ : Uint 8).encode ++ [0x07]) : Read (Uint 1)) =
        .fail (.overflow 1 2) [0x07]) ∧
    (Item.string [0x82, 0x00, 0x05] = .ok [0x00, 0x05] [] ∧
      decodeDigits 1 [0x82, 0x00, 0x05] = .fail (.nonCanonical .integerLeadingZero) []) := by
  have hdigits : BigEndian.encode 256 = [0x01, 0x00] := by
    rw [BigEndian.encode_of_ne_zero (by decide), BigEndian.encode_of_lt (by decide) (by decide)]
    rfl
  rcases travels_by_value 256 with ⟨_, _, hwritten, hread, hwide, hzero⟩
  rw [hdigits] at hwritten hread hwide
  have hinteger := hwritten (⟨256, by decide⟩ : Uint 8) rfl
  refine ⟨⟨hinteger.1, hinteger.2.2.2.1⟩, ⟨by decide, ?_⟩, ⟨by decide, by decide, ?_⟩, rfl, ?_⟩
  · exact (hread (by decide) _ _).mpr ⟨by decide, rfl⟩
  · exact hwide _ rfl (by decide) (by decide) _
  · exact hzero 1 _ _ _ rfl rfl

end Uint
end ChainWire
