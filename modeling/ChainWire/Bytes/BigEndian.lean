import ChainWire.Bytes

/-!
# Numbers as big-endian bytes

A natural number is written with its most significant byte first and without
leading zero bytes, so zero is the empty string.  Reading accepts any byte
string; reading what was written gives the number back.
-/

namespace ChainWire
namespace BigEndian

/-- The number that a byte string stands for, most significant byte first. -/
def decode (b : Bytes) : Nat :=
  b.foldl (fun acc x => acc * 256 + x.toNat) 0

def encode (n : Nat) : Bytes :=
  if n = 0 then [] else encode (n / 256) ++ [UInt8.ofNat n]
decreasing_by omega

/-- One more than the greatest number of `width` bytes. -/
def bound (width : Nat) : Nat := Nat.pow 256 width

theorem bound_succ (width : Nat) : bound (width + 1) = bound width * 256 := rfl

theorem bound_pos (width : Nat) : 0 < bound width :=
  Nat.pow_pos (by decide)

theorem bound_le_of_le {v w : Nat} (h : v <= w) : bound v <= bound w :=
  Nat.pow_le_pow_right (by decide) h

theorem encode_zero : encode 0 = [] := by
  rw [encode, if_pos rfl]

theorem encode_of_ne_zero {n : Nat} (h : n ≠ 0) :
    encode n = encode (n / 256) ++ [UInt8.ofNat n] := by
  rw [encode, if_neg h]

theorem decode_append_singleton (b : Bytes) (x : UInt8) :
    decode (b ++ [x]) = decode b * 256 + x.toNat := by
  simp [decode]

theorem decode_encode (n : Nat) : decode (encode n) = n := by
  induction n using Nat.strongRecOn with
  | ind n ih =>
      by_cases h : n = 0
      · subst h
        rw [encode_zero]
        rfl
      · have hdiv : n / 256 < n := by omega
        rw [encode_of_ne_zero h, decode_append_singleton, ih _ hdiv]
        simp only [UInt8.toNat_ofNat']
        omega

private theorem foldl_lt (b : Bytes) (acc : Nat) :
    b.foldl (fun acc x => acc * 256 + x.toNat) acc < (acc + 1) * bound b.length := by
  induction b generalizing acc with
  | nil => exact Nat.lt_of_lt_of_eq (Nat.lt_succ_self acc) (Nat.mul_one _).symm
  | cons x rest ih =>
      have hx : x.toNat < 256 := x.toNat_lt
      have hstep : acc * 256 + x.toNat + 1 <= (acc + 1) * 256 := by omega
      calc
        rest.foldl (fun acc x => acc * 256 + x.toNat) (acc * 256 + x.toNat)
            < (acc * 256 + x.toNat + 1) * bound rest.length := ih _
        _ <= (acc + 1) * 256 * bound rest.length := Nat.mul_le_mul_right _ hstep
        _ = (acc + 1) * bound (x :: rest).length := by
            rw [List.length_cons, bound_succ, Nat.mul_assoc, Nat.mul_comm 256]

theorem decode_lt (b : Bytes) : decode b < bound b.length := by
  simpa [decode] using foldl_lt b 0

theorem decode_lt_of_length_le {b : Bytes} {width : Nat} (h : b.length <= width) :
    decode b < bound width :=
  Nat.lt_of_lt_of_le (decode_lt b) (bound_le_of_le h)

end BigEndian
end ChainWire
