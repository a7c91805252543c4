import ChainWire.Header
import ChainWire.Proofs.Digits

/-!
# Reading headers

The first byte of an item falls into one of three bands: it is the item
itself, it holds the form and the length, or it holds the form and the number
of digits of the length.  What reading makes of each band is stated once;
everything else about headers follows from these statements.

Reading a written header gives it back if its length has at most four digits
and it is needed at all, and whatever is read as a header was written as one.
-/

namespace ChainWire
namespace Header

/-- One more than the longest payload of an item that can be received. -/
def payloadLimit : Nat := BigEndian.bound maxLengthDigits

example : payloadLimit = 4294967296 := rfl

/-- Whether the header stands in front of a single byte that needs none. -/
def redundant (h : Header) (rest : Bytes) : Bool :=
  h == string 1 && startsBare rest

theorem redundant_take (h : Header) (b : Bytes) :
    redundant h (b.take h.payloadLength) = redundant h b := by
  by_cases hsingle : h = string 1
  · subst hsingle
    cases b <;> rfl
  · simp [redundant, beq_false_of_ne hsingle]

/-!
## The bands of the first byte
-/

theorem firstByte_cases (x : UInt8) :
    x.toNat < stringBase ∨
      (exists h : Header, h.payloadLength <= shortPayloadMax ∧
        x.toNat = h.base + h.payloadLength) ∨
      (exists (isList : Bool) (width : Nat), 1 <= width ∧ width <= 8 ∧
        x.toNat = base ⟨isList, 0⟩ + shortPayloadMax + width) := by
  have hx : x.toNat < 256 := x.toNat_lt
  simp only [stringBase, shortPayloadMax]
  by_cases hbare : x.toNat < 0x80
  · exact Or.inl hbare
  by_cases hstring : x.toNat <= 0xB7
  · exact Or.inr (Or.inl ⟨string (x.toNat - 0x80), by simp [string]; omega,
      by simp [string, base, stringBase]; omega⟩)
  by_cases hlongString : x.toNat < 0xC0
  · exact Or.inr (Or.inr ⟨false, x.toNat - 0xB7, by omega, by omega,
      by simp [base, stringBase]; omega⟩)
  by_cases hlist : x.toNat <= 0xF7
  · exact Or.inr (Or.inl ⟨list (x.toNat - 0xC0), by simp [list]; omega,
      by simp [list, base, listBase]; omega⟩)
  · exact Or.inr (Or.inr ⟨true, x.toNat - 0xF7, by omega, by omega,
      by simp [base, listBase]; omega⟩)

theorem decode_cons_bare {x : UInt8} (hx : x.toNat < stringBase) (rest : Bytes) :
    decode (x :: rest) = .ok (string 1) (x :: rest) := by
  simp [decode, hx]

theorem decode_cons_short {x : UInt8} {h : Header}
    (hlength : h.payloadLength <= shortPayloadMax)
    (hx : x.toNat = h.base + h.payloadLength) (rest : Bytes) :
    decode (x :: rest) =
      if redundant h rest then .fail (.nonCanonical .singleBytePrefixed) rest
      else present h rest := by
  rcases h with ⟨isList, n⟩
  cases isList with
  | false =>
      simp only [base, stringBase, shortPayloadMax, Bool.false_eq_true, if_false] at hx hlength
      have hsub : x.toNat - 0x80 = n := by omega
      have hbare : ¬ x.toNat < 0x80 := by omega
      have hshort : x.toNat <= 0x80 + 55 := by omega
      simp [decode, stringBase, shortPayloadMax, hbare, hshort, hsub, redundant, string]
  | true =>
      simp only [base, listBase, shortPayloadMax, if_true] at hx hlength
      have hsub : x.toNat - 0xC0 = n := by omega
      have hbare : ¬ x.toNat < 0x80 := by omega
      have hshort : ¬ x.toNat <= 0x80 + 55 := by omega
      have hlong : ¬ x.toNat < 0xC0 := by omega
      have hlist : x.toNat <= 0xC0 + 55 := by omega
      simp [decode, stringBase, listBase, shortPayloadMax, hbare, hshort, hlong, hlist, hsub,
        redundant, string, list]

theorem decode_cons_long {x : UInt8} {isList : Bool} {width : Nat}
    (hpos : 1 <= width) (hwidth : width <= 8)
    (hx : x.toNat = base ⟨isList, 0⟩ + shortPayloadMax + width) (rest : Bytes) :
    decode (x :: rest) =
      (decodeLength width rest).andThen fun n => present ⟨isList, n⟩ := by
  cases isList with
  | false =>
      simp only [base, stringBase, shortPayloadMax, Bool.false_eq_true, if_false] at hx
      have hsub : x.toNat - (0x80 + 55) = width := by omega
      have hbare : ¬ x.toNat < 0x80 := by omega
      have hshort : ¬ x.toNat <= 0x80 + 55 := by omega
      have hlong : x.toNat < 0xC0 := by omega
      simp [decode, stringBase, listBase, shortPayloadMax, hbare, hshort, hlong, hsub, string]
  | true =>
      simp only [base, listBase, shortPayloadMax, if_true] at hx
      have hsub : x.toNat - (0xC0 + 55) = width := by omega
      have hbare : ¬ x.toNat < 0x80 := by omega
      have hshort : ¬ x.toNat <= 0x80 + 55 := by omega
      have hlong : ¬ x.toNat < 0xC0 := by omega
      have hlist : ¬ x.toNat <= 0xC0 + 55 := by omega
      simp [decode, stringBase, listBase, shortPayloadMax, hbare, hshort, hlong, hlist, hsub,
        list]

/-!
## Lengths
-/

theorem decodeLength_of_tooWide {width : Nat} (h : maxLengthDigits < width) (b : Bytes) :
    decodeLength width b = .fail (.malformed .lengthTooWide) b := by
  simp [decodeLength, h]

theorem decodeLength_encode_append {n : Nat} (hlong : shortPayloadMax < n)
    (hlimit : n < payloadLimit) (rest : Bytes) :
    decodeLength (BigEndian.encode n).length (BigEndian.encode n ++ rest) = .ok n rest := by
  have hwidth : ¬ maxLengthDigits < (BigEndian.encode n).length := by
    rw [Nat.not_lt, BigEndian.length_encode_le_iff]
    exact hlimit
  have hpos : 0 < (BigEndian.encode n).length :=
    BigEndian.length_encode_pos (by simp [shortPayloadMax] at hlong; omega)
  have hhead : (BigEndian.encode n ++ rest).head? ≠ some 0 := by
    rw [List.head?_append, List.head?_eq_some_head (List.length_pos_iff.mp hpos), Option.some_or,
      ← List.head?_eq_some_head]
    exact BigEndian.head?_encode n
  have henough : (BigEndian.encode n ++ rest).hasAtLeast (BigEndian.encode n).length = true :=
    (Bytes.hasAtLeast_iff _ _).mpr (by simp)
  rw [decodeLength, if_neg hwidth, henough, if_neg (by simp), if_neg (by simpa using hhead)]
  simp [BigEndian.decode_encode, Nat.not_le.mpr hlong]

theorem decodeLength_eq_ok {width n : Nat} {b rest : Bytes}
    (h : decodeLength width b = .ok n rest) :
    b = BigEndian.encode n ++ rest ∧ (BigEndian.encode n).length = width ∧
      shortPayloadMax < n ∧ n < payloadLimit := by
  simp only [decodeLength] at h
  split at h
  · cases h
  rename_i hwidth
  split at h
  · cases h
  rename_i henough
  split at h
  · cases h
  rename_i hhead
  split at h
  · cases h
  rename_i hlong
  cases h
  have hlength : (b.take width).length = width := by
    rw [List.length_take, Nat.min_eq_left]
    simpa using henough
  have htake : (b.take width).head? ≠ some 0 := by
    intro hzero
    simp only [List.head?_take, beq_iff_eq] at hzero hhead
    split at hzero
    · cases hzero
    · exact hhead hzero
  rw [BigEndian.encode_decode htake]
  refine ⟨(List.take_append_drop width b).symm, hlength, Nat.not_le.mp hlong, ?_⟩
  exact BigEndian.decode_lt_of_length_le (by rw [hlength]; exact Nat.not_lt.mp hwidth)

theorem present_eq_ok {h h' : Header} {b rest : Bytes} (hp : present h b = .ok h' rest) :
    h' = h ∧ rest = b ∧ h.payloadLength <= b.length := by
  unfold present at hp
  split at hp
  · rename_i henough
    cases hp
    exact ⟨rfl, rfl, (Bytes.hasAtLeast_iff _ _).mp henough⟩
  · cases hp

theorem present_of_le {h : Header} {b : Bytes} (hle : h.payloadLength <= b.length) :
    present h b = .ok h b := by
  simp [present, hle]

/-!
## Written headers
-/

theorem length_encode (h : Header) : h.encode.length = h.length := by
  unfold encode length
  split
  · rfl
  · simp [Nat.add_comm]

theorem length_encode_le {h : Header} (hlength : h.payloadLength < BigEndian.bound 8) :
    h.encode.length <= 9 := by
  have hdigits := (BigEndian.length_encode_le_iff h.payloadLength 8).mpr hlength
  rw [length_encode]
  unfold length
  split
  · decide
  · omega

theorem base_le (h : Header) : h.base <= listBase := by
  rcases h with ⟨isList, n⟩
  cases isList <;> simp [base, stringBase, listBase]

theorem encode_cases {h : Header} (hlength : h.payloadLength < BigEndian.bound 8) :
    (h.payloadLength <= shortPayloadMax ∧
      exists x : UInt8, x.toNat = h.base + h.payloadLength ∧ h.encode = [x]) ∨
    (shortPayloadMax < h.payloadLength ∧
      exists x : UInt8, x.toNat =
          base ⟨h.isList, 0⟩ + shortPayloadMax + (BigEndian.encode h.payloadLength).length ∧
        h.encode = x :: BigEndian.encode h.payloadLength) := by
  have hbase := base_le h
  simp only [listBase] at hbase
  by_cases hshort : h.payloadLength <= shortPayloadMax
  · refine Or.inl ⟨hshort, UInt8.ofNat (h.base + h.payloadLength), ?_, by simp [encode, hshort]⟩
    simp only [shortPayloadMax] at hshort
    simp only [UInt8.toNat_ofNat']
    omega
  · have hdigits := (BigEndian.length_encode_le_iff h.payloadLength 8).mpr hlength
    refine Or.inr ⟨Nat.not_le.mp hshort, UInt8.ofNat
      (h.base + shortPayloadMax + (BigEndian.encode h.payloadLength).length), ?_,
      by simp [encode, hshort]⟩
    simp only [UInt8.toNat_ofNat', shortPayloadMax]
    exact Nat.mod_eq_of_lt (by omega)

theorem not_startsBare_encode_append {h : Header}
    (hlength : h.payloadLength < BigEndian.bound 8) (rest : Bytes) :
    startsBare (h.encode ++ rest) = false := by
  have hbase (h : Header) : stringBase <= h.base := by
    rcases h with ⟨isList, n⟩
    cases isList <;> simp [base, stringBase, listBase]
  rcases encode_cases hlength with ⟨_, x, hx, hencode⟩ | ⟨_, x, hx, hencode⟩
  · have hlow := hbase h
    simp [hencode, startsBare, hx]
    omega
  · have hlow := hbase ⟨h.isList, 0⟩
    simp [hencode, startsBare, hx]
    omega

theorem lt_bound_of_lt_payloadLimit {n : Nat} (h : n < payloadLimit) : n < BigEndian.bound 8 :=
  Nat.lt_of_lt_of_le h (BigEndian.bound_le_of_le (by decide))

theorem decode_encode_append {h : Header} {rest : Bytes}
    (hlimit : h.payloadLength < payloadLimit) (hneeded : redundant h rest = false) :
    decode (h.encode ++ rest) = present h rest := by
  rcases encode_cases (lt_bound_of_lt_payloadLimit hlimit) with
    ⟨hshort, x, hx, hencode⟩ | ⟨hlong, x, hx, hencode⟩
  · rw [hencode, List.singleton_append, decode_cons_short hshort hx, hneeded]
    rfl
  · have hpos : 0 < (BigEndian.encode h.payloadLength).length :=
      BigEndian.length_encode_pos (by simp [shortPayloadMax] at hlong; omega)
    have hdigits := (BigEndian.length_encode_le_iff h.payloadLength 8).mpr
      (lt_bound_of_lt_payloadLimit hlimit)
    rw [hencode, List.cons_append, decode_cons_long hpos hdigits hx,
      decodeLength_encode_append hlong hlimit]
    rfl

theorem decode_encode_append_of_limit_le {h : Header}
    (hlimit : payloadLimit <= h.payloadLength) (hlength : h.payloadLength < BigEndian.bound 8)
    (rest : Bytes) :
    decode (h.encode ++ rest) =
      .fail (.malformed .lengthTooWide) (BigEndian.encode h.payloadLength ++ rest) := by
  have hwide : maxLengthDigits < (BigEndian.encode h.payloadLength).length := by
    rw [← Nat.not_le, BigEndian.length_encode_le_iff]
    exact Nat.not_lt.mpr hlimit
  have hdigits := (BigEndian.length_encode_le_iff h.payloadLength 8).mpr hlength
  rcases encode_cases hlength with ⟨hshort, _⟩ | ⟨_, x, hx, hencode⟩
  · have hlong : shortPayloadMax < payloadLimit := by decide
    omega
  · rw [hencode, List.cons_append, decode_cons_long (by omega) hdigits hx,
      decodeLength_of_tooWide hwide]
    rfl

/-!
## Written headers are told apart
-/

/-- The two forms start 64 bytes apart, which is more than either of them uses. -/
theorem base_add_inj {h h' : Header} {m m' : Nat} (hm : m < 64) (hm' : m' < 64)
    (heq : h.base + m = h'.base + m') : h.isList = h'.isList ∧ m = m' := by
  rcases h with ⟨isList, n⟩
  rcases h' with ⟨isList', n'⟩
  simp only [base, stringBase, listBase] at heq
  cases isList <;> cases isList' <;>
    simp only [Bool.false_eq_true, if_false, if_true, reduceCtorEq, true_and, false_and]
      at heq ⊢ <;>
    omega

theorem encode_eq_cons {h : Header} (hlength : h.payloadLength < BigEndian.bound 8) :
    exists (x : UInt8) (digits : Bytes) (m : Nat),
      h.encode = x :: digits ∧ x.toNat = h.base + m ∧ m < 64 ∧
        ((m = h.payloadLength ∧ m <= shortPayloadMax ∧ digits = []) ∨
          (shortPayloadMax < m ∧ m = shortPayloadMax + digits.length ∧
            digits = BigEndian.encode h.payloadLength)) := by
  rcases encode_cases hlength with ⟨hshort, x, hx, hencode⟩ | ⟨hlong, x, hx, hencode⟩
  · refine ⟨x, [], h.payloadLength, hencode, hx, ?_, Or.inl ⟨rfl, hshort, rfl⟩⟩
    exact Nat.lt_of_le_of_lt hshort (by decide)
  · have hwidth := (BigEndian.length_encode_le_iff h.payloadLength 8).mpr hlength
    have hpos := BigEndian.length_encode_pos (Nat.ne_of_gt (Nat.zero_lt_of_lt hlong))
    have hlt : shortPayloadMax + (BigEndian.encode h.payloadLength).length < 64 :=
      Nat.add_lt_add_left (Nat.lt_succ_of_le hwidth) shortPayloadMax
    refine ⟨x, _, _, hencode, ?_, hlt, Or.inr ⟨Nat.lt_add_of_pos_right hpos, rfl, rfl⟩⟩
    rw [hx, Nat.add_assoc]
    rfl

theorem encode_append_inj {h h' : Header} (hlength : h.payloadLength < BigEndian.bound 8)
    (hlength' : h'.payloadLength < BigEndian.bound 8) {r s : Bytes}
    (heq : h.encode ++ r = h'.encode ++ s) : h = h' ∧ r = s := by
  rcases encode_eq_cons hlength with ⟨x, digits, m, hencode, hx, hm, hform⟩
  rcases encode_eq_cons hlength' with ⟨y, digits', m', hencode', hy, hm', hform'⟩
  rw [hencode, hencode', List.cons_append, List.cons_append] at heq
  rcases List.cons.inj heq with ⟨rfl, htail⟩
  rcases base_add_inj hm hm' (hx.symm.trans hy) with ⟨hlist, rfl⟩
  rcases hform with ⟨hn, hle, rfl⟩ | ⟨hlt, hwidth, rfl⟩
  · rcases hform' with ⟨hn', _, rfl⟩ | ⟨hlt', _⟩
    · exact ⟨congrArg₂ Header.mk hlist (hn.symm.trans hn'), htail⟩
    · exact absurd hle (Nat.not_le.mpr hlt')
  · rcases hform' with ⟨_, hle', _⟩ | ⟨_, hwidth', rfl⟩
    · exact absurd hle' (Nat.not_le.mpr hlt)
    · rcases List.append_inj htail (by omega) with ⟨hdigits, hrest⟩
      exact ⟨congrArg₂ Header.mk hlist (BigEndian.encode_injective hdigits), hrest⟩

/-!
## What was read had been written
-/

theorem eq_cons_of_long {h : Header} {x : UInt8} (hlong : shortPayloadMax < h.payloadLength)
    (hlength : h.payloadLength < BigEndian.bound 8)
    (hx : x.toNat =
      base ⟨h.isList, 0⟩ + shortPayloadMax + (BigEndian.encode h.payloadLength).length) :
    h.encode = x :: BigEndian.encode h.payloadLength := by
  rcases encode_cases hlength with ⟨hshort, _⟩ | ⟨_, y, hy, hencode⟩
  · omega
  · rw [hencode, UInt8.toNat_inj.mp (hy.trans hx.symm)]

theorem eq_singleton_of_short {h : Header} {x : UInt8}
    (hshort : h.payloadLength <= shortPayloadMax) (hx : x.toNat = h.base + h.payloadLength) :
    h.encode = [x] := by
  have hlength : h.payloadLength < BigEndian.bound 8 :=
    Nat.lt_of_le_of_lt hshort (by decide)
  rcases encode_cases hlength with ⟨_, y, hy, hencode⟩ | ⟨hlong, _⟩
  · rw [hencode, UInt8.toNat_inj.mp (hy.trans hx.symm)]
  · omega

theorem decode_eq_ok {b rest : Bytes} {h : Header} (hd : decode b = .ok h rest) :
    h.payloadLength <= rest.length ∧
      ((startsBare b = true ∧ h = string 1 ∧ rest = b) ∨
        (b = h.encode ++ rest ∧ h.payloadLength < payloadLimit ∧ redundant h rest = false)) := by
  cases b with
  | nil =>
      cases hd
  | cons x tail =>
      rcases firstByte_cases x with hbare | ⟨h', hshort, hx⟩ | ⟨isList, width, hpos, hwidth, hx⟩
      · rw [decode_cons_bare hbare] at hd
        cases hd
        exact ⟨by simp [string], Or.inl ⟨by simpa [startsBare] using hbare, rfl, rfl⟩⟩
      · rw [decode_cons_short hshort hx] at hd
        split at hd
        · cases hd
        · rename_i hneeded
          rcases present_eq_ok hd with ⟨rfl, rfl, hle⟩
          have hlimit : h.payloadLength < payloadLimit :=
            Nat.lt_of_le_of_lt hshort (by decide)
          exact ⟨hle, Or.inr ⟨by rw [eq_singleton_of_short hshort hx]; rfl, hlimit,
            by simpa using hneeded⟩⟩
      · rw [decode_cons_long hpos hwidth hx] at hd
        cases hlen : decodeLength width tail with
        | fail e r =>
            rw [hlen] at hd
            cases hd
        | ok n r =>
            rw [hlen] at hd
            rcases decodeLength_eq_ok hlen with ⟨rfl, rfl, hlong, hlimit⟩
            rcases present_eq_ok hd with ⟨rfl, rfl, hle⟩
            have hencode := eq_cons_of_long (h := ⟨isList, n⟩) hlong
              (lt_bound_of_lt_payloadLimit hlimit) hx
            have hmany : n ≠ 1 := by
              simp only [shortPayloadMax] at hlong
              omega
            exact ⟨hle, Or.inr ⟨by rw [hencode]; rfl, hlimit,
              by simp [redundant, string, hmany]⟩⟩

end Header
end ChainWire
