import ChainWire.Proofs.Uint

/-!
# Integers as byte strings of their width

An integer is also the string of all its bytes, most significant byte first.
Everything that can be asked of the integer can be asked of that string, byte by
byte: what it is padded from, what is left of it without the zeros in front,
whether it fits into fewer bytes, and which of two comes first.  The answers are
those that the numbers give.
-/

namespace ChainWire

/-!
## Comparing bytes and comparing numbers
-/

namespace BigEndian

theorem decode_cons (x : UInt8) (rest : Bytes) :
    decode (x :: rest) = x.toNat * bound rest.length + decode rest := by
  induction rest using List.reverseRecOn with
  | nil =>
      simp [decode, bound]
  | append_singleton rest y ih =>
      rw [← List.cons_append, decode_append_singleton, ih, decode_append_singleton,
        List.length_append, List.length_singleton, bound_succ, Nat.add_mul, Nat.mul_assoc,
        Nat.add_assoc]

theorem compare_toNat (x y : UInt8) : compare x y = compare x.toNat y.toNat := by
  simp only [compare, compareOfLessAndEq, UInt8.lt_iff_toNat_lt, UInt8.toNat_inj]

theorem decode_cons_lt {x y : UInt8} {a b : Bytes} (hlength : a.length = b.length)
    (h : x.toNat < y.toNat) : decode (x :: a) < decode (y :: b) := by
  have ha := decode_lt a
  rw [hlength] at ha
  calc
    decode (x :: a) = x.toNat * bound b.length + decode a := by rw [decode_cons, hlength]
    _ < x.toNat * bound b.length + bound b.length := Nat.add_lt_add_left ha _
    _ = (x.toNat + 1) * bound b.length := (Nat.succ_mul _ _).symm
    _ <= y.toNat * bound b.length := Nat.mul_le_mul_right _ h
    _ <= decode (y :: b) := by
        rw [decode_cons]
        exact Nat.le_add_right _ _

theorem compare_decode {a b : Bytes} (hlength : a.length = b.length) :
    compare a b = compare (decode a) (decode b) := by
  induction a generalizing b with
  | nil =>
      rw [List.eq_nil_of_length_eq_zero hlength.symm]
      rfl
  | cons x a ih =>
      cases b with
      | nil =>
          cases hlength
      | cons y b =>
          have hrest : a.length = b.length := Nat.succ.inj hlength
          rw [List.compare_cons_cons, compare_toNat]
          -- Unless the first bytes are equal, the others have no say on either side.
          rcases Nat.lt_trichotomy x.toNat y.toNat with hlt | heq | hgt
          · rw [Nat.compare_eq_lt.mpr hlt, Nat.compare_eq_lt.mpr (decode_cons_lt hrest hlt)]
            rfl
          · rw [heq, Nat.compare_eq_eq.mpr rfl, Ordering.eq_then, ih hrest, decode_cons,
              decode_cons, heq, hrest]
            simp only [Nat.compare_eq_ite_lt, Nat.add_lt_add_iff_left]
          · rw [Nat.compare_eq_gt.mpr hgt,
              Nat.compare_eq_gt.mpr (decode_cons_lt hrest.symm hgt)]
            rfl

theorem eq_of_decode_eq {a b : Bytes} (hlength : a.length = b.length)
    (h : decode a = decode b) : a = b := by
  have hcompare := compare_decode hlength
  rw [h, Nat.compare_eq_eq.mpr rfl] at hcompare
  exact Std.LawfulEqOrd.eq_of_compare hcompare

end BigEndian

namespace Octets

variable {width : Nat}

def number (x : Octets width) : Nat := BigEndian.decode x.bytes

def trimmed (x : Octets width) : Bytes :=
  x.bytes.drop (x.bytes.takeWhile fun b => b == 0).length

/-- The same number in another width, if there are enough zeros in front. -/
def narrow? (x : Octets width) (narrower : Nat) : Option (Octets narrower) :=
  if h : x.trimmed.length <= narrower then
    some ⟨Bytes.padLeft narrower x.trimmed, Bytes.length_padLeft h⟩
  else none

theorem trimmed_eq_dropWhile (x : Octets width) :
    x.trimmed = x.bytes.dropWhile fun b => b == 0 := by
  calc
    x.trimmed = (x.bytes.takeWhile (fun b => b == 0) ++ x.bytes.dropWhile fun b => b == 0).drop
        (x.bytes.takeWhile fun b => b == 0).length := by
      rw [List.takeWhile_append_dropWhile, trimmed]
    _ = x.bytes.dropWhile fun b => b == 0 := List.drop_left

end Octets

namespace Uint

variable {width : Nat}

def octets (n : Uint width) : Octets width := ⟨n.toBytes, n.length_toBytes⟩

theorem number_octets (n : Uint width) : n.octets.number = n.toNat :=
  n.decode_toBytes

theorem eq_octets_iff {n : Uint width} {x : Octets width} :
    x = n.octets <-> x.number = n.toNat := by
  constructor
  · rintro rfl
    exact n.number_octets
  · intro hnumber
    apply Octets.ext
    apply BigEndian.eq_of_decode_eq (x.length_eq.trans n.octets.length_eq.symm)
    exact hnumber.trans n.number_octets.symm

theorem trimmed_octets (n : Uint width) : n.octets.trimmed = n.trimmed := by
  rw [Octets.trimmed_eq_dropWhile]
  exact n.dropWhile_zero_toBytes

theorem ofBytes_of_length_le {s : Bytes} (h : s.length <= width) :
    (ofBytes s : Except EncodeFault (Uint width)) =
      .ok ⟨BigEndian.decode s, BigEndian.decode_lt_of_length_le h⟩ :=
  dif_pos h

theorem ofBytes_trimmed (n : Uint width) : ofBytes n.trimmed = .ok n := by
  rw [ofBytes_of_length_le n.length_trimmed_le]
  exact congrArg Except.ok (ext (BigEndian.decode_encode n.toNat))

theorem ofPadded_eq_map_octets (s : Bytes) :
    Octets.ofPadded s = (ofBytes s : Except EncodeFault (Uint width)).map octets := by
  unfold Octets.ofPadded ofBytes
  split
  · exact congrArg Except.ok (eq_octets_iff.mpr (BigEndian.decode_padLeft width s))
  · rfl

theorem narrow?_of_lt {n : Uint width} {narrower : Nat} (h : n.toNat < BigEndian.bound narrower) :
    n.narrow? narrower = some ⟨n.toNat, h⟩ :=
  dif_pos h

theorem narrow?_of_le {n : Uint width} {narrower : Nat} (h : BigEndian.bound narrower <= n.toNat) :
    n.narrow? narrower = none :=
  dif_neg (Nat.not_lt.mpr h)

theorem narrow?_eq_some_iff {n : Uint width} {narrower : Nat} {m : Uint narrower} :
    n.narrow? narrower = some m <-> m.toNat = n.toNat := by
  constructor
  · intro h
    rcases Nat.lt_or_ge n.toNat (BigEndian.bound narrower) with hlt | hge
    · rw [narrow?_of_lt hlt] at h
      cases h
      rfl
    · rw [narrow?_of_le hge] at h
      cases h
  · intro h
    have hlt := m.isLt
    rw [h] at hlt
    rw [narrow?_of_lt hlt]
    exact congrArg some (ext h.symm)

theorem isSome_narrow?_iff {n : Uint width} {narrower : Nat} :
    (n.narrow? narrower).isSome = true <-> n.toNat < BigEndian.bound narrower := by
  rw [Option.isSome_iff_exists]
  constructor
  · rintro ⟨m, hm⟩
    rw [← narrow?_eq_some_iff.mp hm]
    exact m.isLt
  · intro hlt
    exact ⟨_, narrow?_of_lt hlt⟩

theorem octets_narrow? (n : Uint width) (narrower : Nat) :
    n.octets.narrow? narrower = (n.narrow? narrower).map octets := by
  have hlength := BigEndian.length_encode_le_iff n.toNat narrower
  unfold Octets.narrow?
  simp only [trimmed_octets, trimmed]
  split
  · rename_i hfits
    rw [narrow?_of_lt (hlength.mp hfits)]
    rfl
  · rename_i hwide
    rw [narrow?_of_le (Nat.not_lt.mp (mt hlength.mpr hwide))]
    rfl

theorem compare_octets (a b : Uint width) : compare a.octets b.octets = compare a b := by
  show compare a.toBytes b.toBytes = compare a.toNat b.toNat
  rw [BigEndian.compare_decode (a.length_toBytes.trans b.length_toBytes.symm), decode_toBytes,
    decode_toBytes]

/-!
## Sorting
-/

theorem sorted_octets (xs : List (Uint width)) :
    (xs.mergeSort fun a b => (compare a b).isLE).map octets =
      (xs.map octets).mergeSort fun a b => (compare a b).isLE := by
  apply List.map_mergeSort
  intro a _ b _
  rw [compare_octets]

theorem pairwise_sorted (xs : List (Uint width)) :
    (xs.mergeSort fun a b => (compare a b).isLE).Pairwise fun a b => a.toNat <= b.toNat := by
  have hle : forall a b : Uint width, (compare a b).isLE = true <-> a.toNat <= b.toNat :=
    fun a b => Nat.isLE_compare
  have htrans : forall a b c : Uint width, (compare a b).isLE = true ->
      (compare b c).isLE = true -> (compare a c).isLE = true := by
    intro a b c hab hbc
    exact (hle a c).mpr (Nat.le_trans ((hle a b).mp hab) ((hle b c).mp hbc))
  have htotal : forall a b : Uint width,
      ((compare a b).isLE || (compare b a).isLE) = true := by
    intro a b
    rw [Bool.or_eq_true, hle, hle]
    exact Nat.le_total _ _
  exact (List.pairwise_mergeSort htrans htotal xs).imp fun h => (hle _ _).mp h

/--
What is done with all bytes of an integer comes to the same as arithmetic on its
number: padding at most that many bytes, and refusing more, cutting off the
zeros in front, taking the number over into fewer bytes or into more, comparing
two integers from the first byte on, and so sorting any number of them.
-/
theorem bytewise_is_numeric :
    (forall x : Octets width, exists n : Uint width, x = n.octets ∧ x.number = n.toNat) ∧
    (forall s : Bytes, s.length <= width -> exists n : Uint width, ofBytes s = .ok n ∧
      Octets.ofPadded s = .ok n.octets ∧ n.octets.number = BigEndian.decode s) ∧
    (forall s : Bytes, width < s.length ->
      (ofBytes s : Except EncodeFault (Uint width)) = .error (.widthExceeded width s.length) ∧
      (Octets.ofPadded s : Except EncodeFault (Octets width)) =
        .error (.widthExceeded width s.length)) ∧
    (forall n : Uint width, n.trimmed = n.octets.trimmed ∧ n.trimmed.head? ≠ some 0 ∧
      ofBytes n.trimmed = .ok n) ∧
    (forall (n : Uint width) (narrower : Nat),
      (n.narrow? narrower).map octets = n.octets.narrow? narrower ∧
      ((n.narrow? narrower).isSome = true <-> n.octets.number < BigEndian.bound narrower) ∧
      forall m, n.narrow? narrower = some m -> m.octets.number = n.octets.number) ∧
    (forall {narrower : Nat} (m : Uint narrower), narrower <= width ->
      exists n : Uint width, m.narrow? width = some n ∧
        Octets.ofPadded m.toBytes = .ok n.octets ∧ n.octets.number = m.octets.number) ∧
    (forall a b : Uint width, compare a b = compare a.octets b.octets ∧
      compare a b = compare a.octets.number b.octets.number) ∧
    (forall xs : List (Uint width),
      (xs.mergeSort fun a b => (compare a b).isLE).Perm xs ∧
      ((xs.mergeSort fun a b => (compare a b).isLE).map octets =
        (xs.map octets).mergeSort fun a b => (compare a b).isLE) ∧
      (xs.mergeSort fun a b => (compare a b).isLE).Pairwise
        fun a b => a.octets.number <= b.octets.number) := by
  have hpadded {s : Bytes} {n : Uint width} (hread : ofBytes s = .ok n) :
      Octets.ofPadded s = .ok n.octets := by
    rw [ofPadded_eq_map_octets, hread]
    rfl
  refine ⟨?_, ?_, ?_, ?_, ?_, ?_, ?_, ?_⟩
  · intro x
    have hlt : x.number < BigEndian.bound width :=
      BigEndian.decode_lt_of_length_le (Nat.le_of_eq x.length_eq)
    exact ⟨⟨x.number, hlt⟩, eq_octets_iff.mpr rfl, rfl⟩
  · intro s hlength
    have hread := ofBytes_of_length_le hlength
    exact ⟨_, hread, hpadded hread, number_octets _⟩
  · intro s hlength
    have hrefused : (ofBytes s : Except EncodeFault (Uint width)) =
        .error (.widthExceeded width s.length) :=
      dif_neg (Nat.not_le.mpr hlength)
    refine ⟨hrefused, ?_⟩
    rw [ofPadded_eq_map_octets, hrefused]
    rfl
  · intro n
    exact ⟨n.trimmed_octets.symm, BigEndian.head?_encode _, n.ofBytes_trimmed⟩
  · intro n narrower
    simp only [number_octets]
    exact ⟨(n.octets_narrow? narrower).symm, isSome_narrow?_iff,
      fun m => narrow?_eq_some_iff.mp⟩
  · intro narrower m hwider
    have hlt := Nat.lt_of_lt_of_le m.isLt (BigEndian.bound_le_of_le hwider)
    refine ⟨⟨m.toNat, hlt⟩, narrow?_of_lt hlt, hpadded ?_, ?_⟩
    · rw [ofBytes_of_length_le (Nat.le_trans (Nat.le_of_eq m.length_toBytes) hwider)]
      exact congrArg Except.ok (ext m.decode_toBytes)
    · rw [number_octets, number_octets]
  · intro a b
    simp only [number_octets]
    exact ⟨(compare_octets a b).symm, rfl⟩
  · intro xs
    simp only [number_octets]
    exact ⟨List.mergeSort_perm xs _, sorted_octets xs, pairwise_sorted xs⟩

/-- The least number that does not fit into eight bytes, the greatest that does, and 33 bytes. -/
theorem bytewise_is_numeric_eightBytes :
    (exists n : Uint 32, ofBytes [0, 0, 1, 0] = .ok n ∧ n.octets.number = 256) ∧
    (ofBytes (List.replicate 33 0) : Except EncodeFault (Uint 32)) =
      .error (.widthExceeded 32 33) ∧
    ((⟨BigEndian.bound 8, by decide⟩ : Uint 32).narrow? 8).isSome = false ∧
    (8 <= 32 ∧ exists n : Uint 32,
      (⟨BigEndian.bound 8 - 1, by decide⟩ : Uint 8).narrow? 32 = some n ∧
        n.octets.number = BigEndian.bound 8 - 1 ∧ (n.narrow? 8).isSome = true) := by
  rcases @bytewise_is_numeric 32 with ⟨_, hread, hrefused, _, hnarrow, hwiden, _, _⟩
  refine ⟨?_, ?_, ?_, by decide, ?_⟩
  · rcases hread [0, 0, 1, 0] (by decide) with ⟨n, hn, _, hnumber⟩
    exact ⟨n, hn, hnumber⟩
  · exact (hrefused (List.replicate 33 0) (by decide)).1
  · rw [Bool.eq_false_iff, ne_eq, (hnarrow _ 8).2.1, number_octets]
    exact Nat.lt_irrefl _
  · rcases hwiden (⟨BigEndian.bound 8 - 1, by decide⟩ : Uint 8) (by decide) with
      ⟨n, hn, _, hsame⟩
    have hnumber := hsame.trans (number_octets _)
    refine ⟨n, hn, hnumber, (hnarrow n 8).2.1.mpr ?_⟩
    rw [hnumber]
    decide

end Uint
end ChainWire
