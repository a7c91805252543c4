import ChainWire.Proofs.Header

/-!
# Written headers and read headers

Reading a written header meets at most one of three obstacles, and meets them
in a fixed order: more digits than a received length may have, a single byte
that needs no header, and a payload that is not all there.  Where it meets none
the header is read, and nothing else is ever read as a header except a byte
that is an item by itself.
-/

namespace ChainWire
namespace Header

theorem redundant_iff {h : Header} {rest : Bytes} :
    redundant h rest = true <-> h = string 1 ∧ startsBare rest = true := by
  simp [redundant]

theorem present_eq (h : Header) (b : Bytes) :
    present h b =
      if b.length < h.payloadLength then .fail (.truncated h.payloadLength b.length) b
      else .ok h b := by
  by_cases hshort : b.length < h.payloadLength
  · have hmissing : ¬ b.hasAtLeast h.payloadLength = true := by
      rw [Bytes.hasAtLeast_iff]
      exact Nat.not_le.mpr hshort
    rw [present, if_neg hmissing, if_pos hshort]
  · rw [present_of_le (Nat.not_lt.mp hshort), if_neg hshort]

theorem length_eq_of_leadingZeros {h : Header} (hlength : h.payloadLength < BigEndian.bound 8) :
    h.length =
      if h.payloadLength <= shortPayloadMax then 1
      else 1 + (8 - BigEndian.leadingZeros 8 h.payloadLength / 8) := by
  rw [length, BigEndian.length_encode_eq_sub_leadingZeros hlength]

theorem decode_encode_append_of_redundant {h : Header} {rest : Bytes}
    (hneedless : redundant h rest = true) :
    decode (h.encode ++ rest) = .fail (.nonCanonical .singleBytePrefixed) rest := by
  have hshort : h.payloadLength <= shortPayloadMax := by
    rw [(redundant_iff.mp hneedless).1]
    decide
  rcases encode_cases (Nat.lt_of_le_of_lt hshort (by decide)) with
    ⟨_, x, hx, hencode⟩ | ⟨hlong, _⟩
  · rw [hencode, List.singleton_append, decode_cons_short hshort hx, if_pos hneedless]
  · exact absurd hshort (Nat.not_le.mpr hlong)

theorem decode_encode_append_eq {h : Header} (hlength : h.payloadLength < BigEndian.bound 8)
    (rest : Bytes) :
    decode (h.encode ++ rest) =
      if payloadLimit <= h.payloadLength then
        .fail (.malformed .lengthTooWide) (BigEndian.encode h.payloadLength ++ rest)
      else if h = string 1 ∧ startsBare rest = true then
        .fail (.nonCanonical .singleBytePrefixed) rest
      else if rest.length < h.payloadLength then
        .fail (.truncated h.payloadLength rest.length) rest
      else .ok h rest := by
  by_cases hlimit : payloadLimit <= h.payloadLength
  · rw [if_pos hlimit]
    exact decode_encode_append_of_limit_le hlimit hlength rest
  rw [if_neg hlimit]
  by_cases hneedless : h = string 1 ∧ startsBare rest = true
  · rw [if_pos hneedless]
    exact decode_encode_append_of_redundant (redundant_iff.mpr hneedless)
  rw [if_neg hneedless, ← present_eq]
  apply decode_encode_append (Nat.not_le.mp hlimit)
  rwa [← Bool.not_eq_true, redundant_iff]

theorem decode_eq_ok_iff {b left : Bytes} {h : Header} :
    decode b = .ok h left <->
      h.payloadLength <= left.length ∧
        ((startsBare b = true ∧ h = string 1 ∧ left = b) ∨
          (b = h.encode ++ left ∧ h.payloadLength < payloadLimit ∧
            ¬ (h = string 1 ∧ startsBare left = true))) := by
  constructor
  · intro hread
    rcases decode_eq_ok hread with ⟨hle, hbare | ⟨hwritten, hlimit, hneeded⟩⟩
    · exact ⟨hle, Or.inl hbare⟩
    · refine ⟨hle, Or.inr ⟨hwritten, hlimit, ?_⟩⟩
      rw [← redundant_iff, hneeded]
      exact Bool.false_ne_true
  · rintro ⟨hle, ⟨hbare, rfl, rfl⟩ | ⟨rfl, hlimit, hneeded⟩⟩
    · cases left with
      | nil =>
          cases hbare
      | cons x rest =>
          exact decode_cons_bare (of_decide_eq_true hbare) rest
    · rw [decode_encode_append_eq (lt_bound_of_lt_payloadLimit hlimit),
        if_neg (Nat.not_le.mpr hlimit), if_neg hneeded, if_neg (Nat.not_lt.mpr hle)]

/--
A header takes the bytes that its length says, and reading it in front of any
bytes gives the first obstacle in order or the header itself.  Conversely, what
is read as a header is a byte that needs none or was written as this header,
and the payload that it announces is there.
-/
theorem reads_back_exactly :
    (forall h : Header, h.payloadLength < BigEndian.bound 8 -> forall rest : Bytes,
      h.encode.length = h.length ∧
      h.length =
        (if h.payloadLength <= shortPayloadMax then 1
          else 1 + (8 - BigEndian.leadingZeros 8 h.payloadLength / 8)) ∧
      decode (h.encode ++ rest) =
        if payloadLimit <= h.payloadLength then
          .fail (.malformed .lengthTooWide) (BigEndian.encode h.payloadLength ++ rest)
        else if h = string 1 ∧ startsBare rest = true then
          .fail (.nonCanonical .singleBytePrefixed) rest
        else if rest.length < h.payloadLength then
          .fail (.truncated h.payloadLength rest.length) rest
        else .ok h rest) ∧
    (forall (b left : Bytes) (h : Header), decode b = .ok h left <->
      h.payloadLength <= left.length ∧
        ((startsBare b = true ∧ h = string 1 ∧ left = b) ∨
          (b = h.encode ++ left ∧ h.payloadLength < payloadLimit ∧
            ¬ (h = string 1 ∧ startsBare left = true)))) := by
  refine ⟨?_, ?_⟩
  · intro h hlength rest
    exact ⟨length_encode h, length_eq_of_leadingZeros hlength,
      decode_encode_append_eq hlength rest⟩
  · intro b left h
    exact decode_eq_ok_iff

/-- The greatest length that is read and the least that is not, and a header that has no use. -/
theorem reads_back_exactly_atLimits :
    (4294967295 < BigEndian.bound 8 ∧ (list 4294967295).encode.length = 5 ∧
      decode ((list 4294967295).encode ++ [0x80]) = .fail (.truncated 4294967295 1) [0x80]) ∧
    (4294967296 < BigEndian.bound 8 ∧
      decode ((list 4294967296).encode ++ [0x80]) =
        .fail (.malformed .lengthTooWide) (BigEndian.encode 4294967296 ++ [0x80])) ∧
    (1 < BigEndian.bound 8 ∧
      decode ((string 1).encode ++ [0x05]) = .fail (.nonCanonical .singleBytePrefixed) [0x05]) ∧
    decode ((list 1).encode ++ [0x05]) = .ok (list 1) [0x05] := by
  have hgreatest := reads_back_exactly.1 (list 4294967295) (by decide) [0x80]
  have hleast := reads_back_exactly.1 (list 4294967296) (by decide) [0x80]
  have huseless := reads_back_exactly.1 (string 1) (by decide) [0x05]
  have hread := reads_back_exactly.2 ((list 1).encode ++ [0x05]) [0x05] (list 1)
  refine ⟨⟨by decide, ?_, hgreatest.2.2⟩, ⟨by decide, hleast.2.2⟩, ⟨by decide, huseless.2.2⟩, ?_⟩
  · exact hgreatest.1.trans hgreatest.2.1
  · exact hread.mpr ⟨by decide, Or.inr ⟨rfl, by decide, by decide⟩⟩

end Header
end ChainWire
