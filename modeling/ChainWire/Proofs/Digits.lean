import ChainWire.Bytes.BigEndian
import Mathlib.Data.List.Induction

/-!
# Digits of a number

The shortest byte string of a number has no zero byte in front, and every byte
string without one is the shortest for the number that it stands for.  How many
digits a number takes is a matter of its size alone, and can be told from the
zero bits in front of it.
-/

namespace ChainWire
namespace BigEndian

theorem encode_injective {m n : Nat} (h : encode m = encode n) : m = n := by
  rw [← decode_encode m, h, decode_encode]

theorem encode_eq_nil_iff (n : Nat) : encode n = [] <-> n = 0 := by
  constructor
  · intro h
    exact encode_injective (h.trans encode_zero.symm)
  · intro h
    rw [h, encode_zero]

theorem encode_of_lt {n : Nat} (hn : n ≠ 0) (hlt : n < 256) : encode n = [UInt8.ofNat n] := by
  rw [encode_of_ne_zero hn, Nat.div_eq_of_lt hlt, encode_zero]
  rfl

theorem head?_encode (n : Nat) : (encode n).head? ≠ some 0 := by
  induction n using Nat.strongRecOn with
  | ind n ih =>
      by_cases hn : n = 0
      · simp [hn, encode_zero]
      · rw [encode_of_ne_zero hn]
        by_cases hdiv : n / 256 = 0
        · have hlt : n < 256 := by omega
          simp only [hdiv, encode_zero, List.nil_append, List.head?_cons, ne_eq,
            Option.some.injEq]
          intro hzero
          have hnat := congrArg UInt8.toNat hzero
          simp only [UInt8.toNat_ofNat', UInt8.toNat_zero] at hnat
          omega
        · have hhigh : encode (n / 256) ≠ [] := by
            rwa [ne_eq, encode_eq_nil_iff]
          rw [List.head?_append, List.head?_eq_some_head hhigh, Option.some_or,
            ← List.head?_eq_some_head hhigh]
          exact ih _ (by omega)

theorem encode_decode {b : Bytes} (h : b.head? ≠ some 0) : encode (decode b) = b := by
  -- The last byte is the lowest digit, so the induction takes bytes off the end.
  induction b using List.reverseRecOn with
  | nil =>
      exact encode_zero
  | append_singleton high x ih =>
      have hx : x.toNat < 256 := x.toNat_lt
      have hhigh : encode (decode high) = high := by
        cases high with
        | nil =>
            exact encode_zero
        | cons y ys =>
            exact ih (by simpa using h)
      have hne : decode (high ++ [x]) ≠ 0 := by
        rw [decode_append_singleton]
        intro hzero
        have hhighZero : decode high = 0 := by omega
        rw [hhighZero, encode_zero] at hhigh
        have hxZero : x = 0 := UInt8.toNat_inj.mp (by simp; omega)
        simp [← hhigh, hxZero] at h
      have hdiv : (decode high * 256 + x.toNat) / 256 = decode high := by omega
      have hlow : UInt8.ofNat (decode high * 256 + x.toNat) = x := by
        apply UInt8.toNat_inj.mp
        simp only [UInt8.toNat_ofNat']
        omega
      rw [encode_of_ne_zero hne, decode_append_singleton, hdiv, hlow, hhigh]

theorem length_encode_le_iff (n width : Nat) :
    (encode n).length <= width <-> n < bound width := by
  constructor
  · intro h
    simpa only [decode_encode] using decode_lt_of_length_le h
  · intro h
    induction width generalizing n with
    | zero =>
        have hn : n = 0 := by
          simpa [bound] using h
        simp [hn, encode_zero]
    | succ width ih =>
        by_cases hn : n = 0
        · simp [hn, encode_zero]
        · have hdiv : n / 256 < bound width := by
            rw [bound_succ] at h
            omega
          rw [encode_of_ne_zero hn, List.length_append, List.length_singleton]
          exact Nat.succ_le_succ (ih _ hdiv)

theorem length_encode_pos {n : Nat} (h : n ≠ 0) : 0 < (encode n).length := by
  apply List.length_pos_iff.mpr
  rwa [ne_eq, encode_eq_nil_iff]

/-!
## Zero bytes in front
-/

theorem decode_cons_zero (b : Bytes) : decode (0 :: b) = decode b := rfl

theorem decode_dropWhile_zero (b : Bytes) :
    decode (b.dropWhile fun x => x == 0) = decode b := by
  induction b with
  | nil =>
      rfl
  | cons x rest ih =>
      by_cases hx : x = 0
      · rw [hx, decode_cons_zero, ← ih]
        rfl
      · rw [List.dropWhile_cons_of_neg (by simpa using hx)]

theorem decode_padLeft (width : Nat) (b : Bytes) :
    decode (Bytes.padLeft width b) = decode b := by
  unfold Bytes.padLeft
  induction width - b.length with
  | zero =>
      rfl
  | succ zeros ih =>
      rw [List.replicate_succ, List.cons_append, decode_cons_zero, ih]

theorem dropWhile_zero_eq_encode (b : Bytes) :
    (b.dropWhile fun x => x == 0) = encode (decode b) := by
  have hhead : (b.dropWhile fun x => x == 0).head? ≠ some 0 := by
    intro hzero
    have hfirst := List.head?_dropWhile_not (fun x : UInt8 => x == 0) b
    rw [hzero] at hfirst
    cases hfirst
  rw [← decode_dropWhile_zero b, encode_decode hhead]

theorem encode_decode_suffix (b : Bytes) : encode (decode b) <:+ b := by
  rw [← dropWhile_zero_eq_encode]
  exact List.dropWhile_suffix _

/-- The byte string stands for the number, and no shorter one does. -/
def IsShortest (b : Bytes) (n : Nat) : Prop :=
  decode b = n ∧ forall c, decode c = n -> b.length <= c.length

theorem isShortest_iff {b : Bytes} {n : Nat} : IsShortest b n <-> b = encode n := by
  constructor
  · rintro ⟨rfl, hshortest⟩
    exact ((encode_decode_suffix b).eq_of_length_le (hshortest _ (decode_encode _))).symm
  · rintro rfl
    refine ⟨decode_encode n, ?_⟩
    rintro c rfl
    exact (encode_decode_suffix c).length_le

/-!
## Zero bits in front
-/

theorem bound_eq_two_pow (width : Nat) : bound width = Nat.pow 2 (8 * width) :=
  (Nat.pow_mul 2 8 width).symm

/-- The zero bits in front of a number that is written with `width` bytes. -/
def leadingZeros (width n : Nat) : Nat :=
  (BitVec.ofNat (8 * width) n).clz.toNat

theorem toNat_ofNat_of_lt_bound {width n : Nat} (h : n < bound width) :
    (BitVec.ofNat (8 * width) n).toNat = n := by
  rw [bound_eq_two_pow] at h
  exact Nat.mod_eq_of_lt h

theorem leadingZeros_le (width n : Nat) : leadingZeros width n <= 8 * width := by
  have hle := BitVec.le_def.mp (BitVec.clz_le (x := BitVec.ofNat (8 * width) n))
  rwa [BitVec.natCast_eq_ofNat, BitVec.toNat_ofNat, Nat.mod_eq_of_lt Nat.lt_two_pow_self] at hle

theorem leadingZeros_zero (width : Nat) : leadingZeros width 0 = 8 * width := by
  rw [leadingZeros, BitVec.clz_eq_iff_eq_zero.mpr rfl, BitVec.natCast_eq_ofNat,
    BitVec.toNat_ofNat, Nat.mod_eq_of_lt Nat.lt_two_pow_self]

theorem lt_bound_sub_leadingZeros {width n : Nat} (h : n < bound width) :
    n < bound (width - leadingZeros width n / 8) := by
  have hbits := BitVec.toNat_lt_two_pow_sub_clz (x := BitVec.ofNat (8 * width) n)
  rw [toNat_ofNat_of_lt_bound h] at hbits
  rw [bound_eq_two_pow]
  refine Nat.lt_of_lt_of_le hbits (Nat.pow_le_pow_right (by decide) ?_)
  show 8 * width - leadingZeros width n <= _
  omega

/-- Behind the leading zeros comes a one, so fewer bytes do not hold the number. -/
theorem bound_le_of_lt_sub_leadingZeros {width n k : Nat} (h : n < bound width)
    (hk : k < width - leadingZeros width n / 8) : bound k <= n := by
  have hzeros := leadingZeros_le width n
  by_cases hn : n = 0
  · rw [hn, leadingZeros_zero, Nat.mul_div_cancel_left width (by decide), Nat.sub_self] at hk
    exact absurd hk (Nat.not_lt_zero k)
  · have hvalue := toNat_ofNat_of_lt_bound h
    have hne : BitVec.ofNat (8 * width) n ≠ 0 := by
      intro hzero
      rw [hzero] at hvalue
      exact hn hvalue.symm
    have hbits := BitVec.two_pow_sub_clz_le_toNat_of_ne_zero (by omega) hne
    rw [hvalue] at hbits
    rw [bound_eq_two_pow]
    refine Nat.le_trans (Nat.pow_le_pow_right (by decide) ?_) hbits
    show _ <= 8 * width - 1 - leadingZeros width n
    omega

theorem length_encode_eq_sub_leadingZeros {width n : Nat} (h : n < bound width) :
    (encode n).length = width - leadingZeros width n / 8 := by
  apply Nat.le_antisymm
  · exact (length_encode_le_iff _ _).mpr (lt_bound_sub_leadingZeros h)
  · apply Nat.le_of_not_lt
    intro hshort
    have hbound := bound_le_of_lt_sub_leadingZeros h hshort
    exact Nat.not_lt.mpr hbound ((length_encode_le_iff _ _).mp (Nat.le_refl _))

end BigEndian
end ChainWire
