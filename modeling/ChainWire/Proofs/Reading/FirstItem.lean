import ChainWire.Proofs.ItemType

/-!
# Reading no more than the first item

A header is read from its own bytes alone, with one exception: whether its
payload is there depends on what follows.  So more bytes at the end change the
outcome of a read only if it had run out of bytes.

What is true of headers passes on to everything that is read one item at a
time, whatever the decoder does inside the item.
-/

namespace ChainWire

namespace Read

variable {α β : Type}

def Starved (r : Read α) : Prop :=
  exists n m rest, r = .fail (.truncated n m) rest

theorem Starved.andThen {r : Read α} (h : r.Starved) (f : α -> Bytes -> Read β) :
    (r.andThen f).Starved := by
  rcases h with ⟨n, m, rest, rfl⟩
  exact ⟨n, m, rest, rfl⟩

theorem extend_andThen {r : Read α} {f : α -> Bytes -> Read β} {more : Bytes}
    (hf : forall x rest, r = .ok x rest -> f x (rest ++ more) = (f x rest).extend more) :
    (r.extend more).andThen f = (r.andThen f).extend more := by
  cases r with
  | ok x rest =>
      exact hf x rest rfl
  | fail e rest =>
      rfl

theorem extend_eq_fail {r : Read α} {more rest : Bytes} {e : DecodeFault}
    (h : r.extend more = .fail e rest) : r.result = .error e := by
  cases r with
  | ok x left =>
      cases h
  | fail e' left =>
      cases h
      rfl

theorem result_extend (r : Read α) (more : Bytes) : (r.extend more).result = r.result := by
  cases r <;> rfl

end Read

namespace Header

/-!
## Headers with more bytes behind them
-/

theorem redundant_append {h : Header} {b : Bytes} (hred : redundant h b = true) (more : Bytes) :
    redundant h (b ++ more) = true := by
  cases b with
  | nil =>
      simp [redundant, startsBare] at hred
  | cons x tail =>
      exact hred

theorem redundant_append_of_le {h : Header} {b : Bytes} (hle : h.payloadLength <= b.length)
    (more : Bytes) : redundant h (b ++ more) = redundant h b := by
  rw [← redundant_take, List.take_append_of_le_length hle, redundant_take]

theorem le_of_not_starved {h : Header} {b : Bytes} (hb : ¬ (present h b).Starved) :
    h.payloadLength <= b.length := by
  unfold present at hb
  split at hb
  · rename_i henough
    exact (Bytes.hasAtLeast_iff _ _).mp henough
  · exact absurd ⟨_, _, _, rfl⟩ hb

theorem present_append {h : Header} {b : Bytes} (hb : ¬ (present h b).Starved) (more : Bytes) :
    present h (b ++ more) = (present h b).extend more := by
  have hle := le_of_not_starved hb
  rw [present_of_le hle, present_of_le (by rw [List.length_append]; omega)]
  rfl

theorem decodeLength_append {width : Nat} (hpos : 1 <= width) {b : Bytes}
    (hb : ¬ (decodeLength width b).Starved) (more : Bytes) :
    decodeLength width (b ++ more) = (decodeLength width b).extend more := by
  by_cases hwide : maxLengthDigits < width
  · rw [decodeLength_of_tooWide hwide, decodeLength_of_tooWide hwide]
    rfl
  have hle : width <= b.length := by
    cases henough : b.hasAtLeast width with
    | true =>
        exact (Bytes.hasAtLeast_iff _ _).mp henough
    | false =>
        apply absurd _ hb
        exact ⟨width, b.length, b, by simp [decodeLength, hwide, henough]⟩
  have henough : b.hasAtLeast width = true := (Bytes.hasAtLeast_iff _ _).mpr hle
  have henough' : (b ++ more).hasAtLeast width = true := by
    rw [Bytes.hasAtLeast_iff, List.length_append]
    omega
  have hhead : (b ++ more).head? = b.head? := by
    cases b with
    | nil =>
        simp at hle
        omega
    | cons x tail =>
        rfl
  simp only [decodeLength, if_neg hwide, henough, henough', hhead,
    List.take_append_of_le_length hle, List.drop_append_of_le_length hle]
  split
  · rename_i hfalse
    cases hfalse
  split
  · rfl
  split <;> rfl

theorem decode_append {b : Bytes} (hb : ¬ (decode b).Starved) (more : Bytes) :
    decode (b ++ more) = (decode b).extend more := by
  cases b with
  | nil =>
      exact absurd ⟨1, 0, [], rfl⟩ hb
  | cons x tail =>
      rw [List.cons_append]
      rcases firstByte_cases x with hbare | ⟨h, hshort, hx⟩ | ⟨isList, width, hpos, hwidth, hx⟩
      · rw [decode_cons_bare hbare, decode_cons_bare hbare]
        rfl
      · rw [decode_cons_short hshort hx] at hb ⊢
        rw [decode_cons_short hshort hx]
        cases hred : redundant h tail with
        | true =>
            -- A redundant header is refused before its payload is looked for.
            rw [redundant_append hred]
            rfl
        | false =>
            rw [hred] at hb
            have hpresent : ¬ (present h tail).Starved := hb
            rw [redundant_append_of_le (le_of_not_starved hpresent), hred]
            exact present_append hpresent more
      · rw [decode_cons_long hpos hwidth hx] at hb ⊢
        rw [decode_cons_long hpos hwidth hx]
        rw [decodeLength_append hpos (fun hlen => hb (hlen.andThen _))]
        apply Read.extend_andThen
        intro n rest hlen
        rw [hlen] at hb
        exact present_append hb more

end Header

namespace Decoder
namespace ItemWise

variable {α : Type} {d : Decoder α}

/-!
## Decoders of one item with more bytes behind it
-/

theorem append_eq_ok (hd : d.ItemWise) {b rest : Bytes} {y : α} (h : d b = .ok y rest)
    (more : Bytes) :
    exists item, b = item ++ rest ∧ Item.span b = .ok item.length ∧
      d (b ++ more) = .ok y (rest ++ more) := by
  rcases hd.split h with ⟨item, hwhole, rfl, hread⟩
  refine ⟨item, rfl, hwhole.span_append rest, ?_⟩
  rw [List.append_assoc]
  exact hd.append_of_eq_ok hwhole hread _

theorem append_eq_fail (hd : d.ItemWise) {b rest : Bytes} {e : DecodeFault}
    (h : d b = .fail e rest) (hbytes : forall n m, e ≠ .truncated n m) (more : Bytes) :
    (d (b ++ more)).result = .error e := by
  cases hheader : Header.decode b with
  | fail e' left =>
      have hfault := hd.fault hheader
      rw [h] at hfault
      cases hfault
      have hstarved : ¬ (Header.decode b).Starved := by
        rintro ⟨n, m, left', hfail⟩
        rw [hheader] at hfail
        cases hfail
        exact hbytes n m rfl
      apply hd.fault
      rw [Header.decode_append hstarved, hheader]
      rfl
  | ok header left =>
      -- The item is all there, so whatever the decoder misses, it misses inside the item.
      rcases Item.header_eq_ok hheader with ⟨payload, after, rfl, hlimit, _⟩
      have hwhole : Item.IsWhole (Item.wrap header.isList payload) := Item.isWhole_wrap hlimit
      rw [hd.append hwhole] at h
      rw [List.append_assoc, hd.append hwhole, Read.result_extend]
      exact Read.extend_eq_fail h

end ItemWise
end Decoder

namespace ItemType

/--
An item of any type is read from the bytes that its header spans, and from no
others.  More bytes at the end leave a value as it was, and a fault too unless
it was that bytes were missing.
-/
theorem decode_reads_first_item (t : ItemType) (b more : Bytes) :
    (forall y rest, t.codec.decode b = .ok y rest ->
      exists item, b = item ++ rest ∧ Item.span b = .ok item.length ∧
        t.codec.decode (b ++ more) = .ok y (rest ++ more)) ∧
    (forall e rest, t.codec.decode b = .fail e rest -> (forall n m, e ≠ .truncated n m) ->
      (t.codec.decode (b ++ more)).result = .error e) := by
  have hitem := t.codec_itemWise
  refine ⟨?_, ?_⟩
  · intro y rest h
    exact hitem.append_eq_ok h more
  · intro e rest h hbytes
    exact hitem.append_eq_fail h hbytes more

/-- Two flags in front of a byte, and an integer that is no flag. -/
theorem decode_reads_first_item_flags :
    ((list bool).codec.decode [0xC2, 0x01, 0x80, 0x07] = .ok [true, false] [0x07] ∧
      exists item : Bytes, [0xC2, 0x01, 0x80, 0x07] = item ++ [0x07] ∧
        Item.span [0xC2, 0x01, 0x80, 0x07] = .ok item.length ∧
        (list bool).codec.decode ([0xC2, 0x01, 0x80, 0x07] ++ [0x08]) =
          .ok [true, false] ([0x07] ++ [0x08])) ∧
    ((list bool).codec.decode [0xC1, 0x02] = .fail (.malformed .invalidBool) [] ∧
      ((list bool).codec.decode ([0xC1, 0x02] ++ [0x81])).result =
        .error (.malformed .invalidBool)) := by
  have hread : (list bool).codec.decode [0xC2, 0x01, 0x80, 0x07] = .ok [true, false] [0x07] := rfl
  have hfail : (list bool).codec.decode [0xC1, 0x02] = .fail (.malformed .invalidBool) [] := rfl
  refine ⟨⟨hread, (decode_reads_first_item (list bool) _ [0x08]).1 _ _ hread⟩, hfail, ?_⟩
  apply (decode_reads_first_item (list bool) _ [0x81]).2 _ _ hfail
  intro n m h
  cases h

/-- Missing bytes are another matter: the fault goes away when they come. -/
example :
    bytes.codec.decode [0x81] = .fail (.truncated 1 0) [] ∧
      bytes.codec.decode ([0x81] ++ [0x80]) = .ok [0x80] [] :=
  ⟨rfl, rfl⟩

end ItemType
end ChainWire
