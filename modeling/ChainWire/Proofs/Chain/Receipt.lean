import ChainWire.Chain.Receipt
import ChainWire.Proofs.Chain.Envelope
import ChainWire.Proofs.Codec.Primitive
import ChainWire.Proofs.Codec.Record

/-!
# Receipts

Receipts are lawful but not strict.  Type zero is written as a plain record,
yet an envelope that names type zero is read as well; this is the only item
that would not be written as it was received.
-/

namespace ChainWire

/-- A byte string that starts with the byte zero. -/
def Item.StartsZero (e : Bytes) : Prop :=
  exists tail, string e = .ok (0 :: tail) []

theorem Item.string_ne_ok_of_peek {b left data rest : Bytes} {h : Header}
    (hpeek : Header.peek b = .ok h left) (hlist : h.isList = true) :
    string b ≠ .ok data rest := by
  unfold Header.peek at hpeek
  cases hheader : Header.decode b with
  | ok header tail =>
      rw [hheader] at hpeek
      cases hpeek
      rw [string, hheader, Read.andThen_ok, if_pos hlist]
      simp
  | fail e tail =>
      rw [hheader] at hpeek
      cases hpeek

def ReceiptStatus.bytes : ReceiptStatus -> Bytes
  | failed => []
  | success => [1]
  | postState root => root.bytes

namespace Codec

theorem log_strict : log.Strict := by
  apply Strict.through
  · exact .record <| .cons (octets_strict 20) <| .cons (octets_strict 32).list <|
      .one bytes_strict
  · intro l
    rfl
  · intro fields
    rfl

theorem receiptStatus_strict : receiptStatus.Strict := by
  apply Strict.of_string ReceiptStatus.bytes
  · intro s
    cases s <;> rfl
  · intro b
    rfl
  · intro data
    exact .ite .ok (.ite .ok (.dite (fun _ => .ok) fun _ => .fail))
  · intro s
    cases s with
    | failed =>
        rfl
    | success =>
        rfl
    | postState root =>
        -- A root is too long to be taken for one of the flags.
        have hother (data : Bytes) (hdata : data.length ≠ 32) : root.bytes ≠ data := by
          intro heq
          rw [← heq] at hdata
          exact hdata root.length_eq
        simp [ReceiptStatus.bytes, hother [] (by decide), hother [1] (by decide),
          root.length_eq]
  · intro data s h
    split at h
    · rename_i hempty
      cases h
      exact (List.isEmpty_iff.mp hempty).symm
    · split at h
      · rename_i hone
        cases h
        exact hone.symm
      · split at h
        · cases h
          rfl
        · cases h

/-!
## The record of a given type
-/

abbrev receiptFields : Codec (ReceiptStatus × Uint 8 × Octets 256 × List Log) :=
  record "receipt" <| .cons receiptStatus <| .cons (uint 8) <| .cons (octets 256) <|
    .one (list log)

theorem receiptFields_strict : receiptFields.Strict :=
  .record <| .cons receiptStatus_strict <| .cons (uint_strict 8) <|
    .cons (octets_strict 256) <| .one log_strict.list

theorem receiptRecord_itemWise (type : UInt8) : (receiptRecord type).decode.ItemWise :=
  receiptFields_strict.itemWise.map _

theorem receiptRecord_roundTripsAt (r : Receipt) : (receiptRecord r.type).RoundTripsAt r := by
  apply RoundTripsAt.through (receiptFields_strict.roundTrips _)
  rfl

/-- The type is not part of the record, so it is that under which the record is read. -/
theorem receiptRecord_canonical {type : UInt8} {e : Bytes} {r : Receipt}
    (h : (receiptRecord type).decode e = .ok r []) :
    r.type = type ∧ (receiptRecord r.type).encode r = .ok e := by
  rcases Read.map_eq_ok h with ⟨fields, hfields, rfl⟩
  constructor
  · rfl
  · exact receiptFields_strict.canonical e fields hfields

/-!
## Both forms
-/

theorem receipt_encode_eq_ok {r : Receipt} {e : Bytes} :
    receipt.encode r = .ok e <->
      exists inner, (receiptRecord r.type).encode r = .ok inner ∧
        if r.type = 0 then e = inner else TypedEnvelope.encode r.type inner = .ok e := by
  have hbind : receipt.encode r = .ok e <->
      exists inner, (receiptRecord r.type).encode r = .ok inner ∧
        (if r.type = 0 then .ok inner else TypedEnvelope.encode r.type inner) = .ok e :=
    Outcome.bind_eq_ok_iff
  rw [hbind]
  split
  · simp [eq_comm]
  · rfl

theorem receipt_itemWise : receipt.decode.ItemWise := by
  apply Decoder.ItemWise.peek
  intro h
  apply Or.inl
  cases h.isList with
  | true =>
      exact receiptRecord_itemWise 0
  | false =>
      apply TypedEnvelope.decode_itemWise.andThen
      rintro ⟨type, payload⟩
      dsimp only
      cases (receiptRecord type).decode.exact payload with
      | ok r =>
          exact .ok
      | error e =>
          exact .fail

theorem receipt_decode_envelope {r : Receipt} {inner : Bytes}
    (hinner : (receiptRecord r.type).encode r = .ok inner)
    (hreserved : TypedEnvelope.isReserved r.type = false)
    (hlimit : (r.type :: inner).length < Header.payloadLimit) :
    receipt.decode (Item.ofString (r.type :: inner)) = .ok r [] := by
  have hlength : inner.length < Header.payloadLimit := Nat.lt_of_succ_lt hlimit
  have hread := ((receiptRecord_roundTripsAt r).isWhole hinner hlength).2
  have hexact := Decoder.exact_eq_ok_iff.mpr hread
  show (Header.peek (Item.wrap false (r.type :: inner))).andThen _ = _
  rw [Header.peek_wrap hlimit, Read.andThen_ok, if_neg Bool.false_ne_true, Item.wrap_false,
    TypedEnvelope.decode_ofString hreserved hlimit, Read.andThen_ok]
  dsimp only
  rw [hexact]

theorem receipt_roundTripsAt (r : Receipt) : receipt.RoundTripsAt r := by
  intro e he
  rcases receipt_encode_eq_ok.mp he with ⟨inner, hinner, hform⟩
  split at hform
  · rename_i htype
    subst hform
    rcases (record_encode_eq_ok "receipt").mp hinner with ⟨payload, _, rfl⟩
    refine ⟨true, payload, rfl, ?_⟩
    intro hlimit
    have hwhole : Item.IsWhole (Item.wrap true payload) := Item.isWhole_wrap hlimit
    have hread := (receiptRecord_roundTripsAt r).decode_eq_ok hinner hwhole
    rw [htype] at hread
    show (Header.peek (Item.wrap true payload)).andThen _ = _
    rw [Header.peek_wrap hlimit, Read.andThen_ok, if_pos rfl, Item.wrap_true, hread]
  · rcases TypedEnvelope.encode_eq_ok_iff.mp hform with ⟨hreserved, rfl⟩
    exact ⟨false, r.type :: inner, rfl, receipt_decode_envelope hinner hreserved⟩

theorem receipt_lawful : receipt.Lawful where
  itemWise := receipt_itemWise
  roundTrips := receipt_roundTripsAt

theorem receipt_eq_ok {e : Bytes} {r : Receipt} (h : receipt.decode e = .ok r []) :
    exists inner, (receiptRecord r.type).encode r = .ok inner ∧
      ((r.type = 0 ∧ e = inner ∧ forall data, Item.string e ≠ .ok data []) ∨
        TypedEnvelope.isReserved r.type = false ∧ Item.string e = .ok (r.type :: inner) []) := by
  rcases Read.andThen_eq_ok h with ⟨header, left, hpeek, hread⟩
  have hleft := Header.eq_of_peek_eq_ok hpeek
  subst hleft
  split at hread
  · rename_i hlist
    rcases receiptRecord_canonical hread with ⟨htype, hencode⟩
    exact ⟨left, hencode, Or.inl ⟨htype, rfl, fun _ => Item.string_ne_ok_of_peek hpeek hlist⟩⟩
  · rcases Read.andThen_eq_ok hread with ⟨⟨type, payload⟩, rest, henvelope, hinner⟩
    rcases TypedEnvelope.string_of_decode henvelope with ⟨hreserved, hstring⟩
    dsimp only at hinner
    split at hinner
    · rename_i receipt hexact
      cases hinner
      rcases receiptRecord_canonical (Decoder.exact_eq_ok_iff.mp hexact) with ⟨rfl, hencode⟩
      exact ⟨payload, hencode, Or.inr ⟨hreserved, hstring⟩⟩
    · cases hinner

theorem receipt_canonicalAt {e : Bytes} (hzero : ¬ Item.StartsZero e) :
    receipt.CanonicalAt e := by
  intro r h
  rcases receipt_eq_ok h with ⟨inner, hinner, ⟨htype, rfl, _⟩ | ⟨hreserved, hstring⟩⟩
  · apply receipt_encode_eq_ok.mpr
    refine ⟨e, hinner, ?_⟩
    rw [if_pos htype]
  · have htype : r.type ≠ 0 := by
      intro htype
      rw [htype] at hstring
      exact hzero ⟨inner, hstring⟩
    have he := (Item.eq_ofString_of_string hstring).1
    rw [List.append_nil] at he
    apply receipt_encode_eq_ok.mpr
    refine ⟨inner, hinner, ?_⟩
    rw [if_neg htype]
    exact TypedEnvelope.encode_eq_ok_iff.mpr ⟨hreserved, he⟩

end Codec
end ChainWire
