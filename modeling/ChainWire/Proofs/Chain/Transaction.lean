import ChainWire.Chain.Transaction
import ChainWire.Proofs.Chain.Envelope
import ChainWire.Proofs.Codec.Primitive
import ChainWire.Proofs.Codec.Record

/-!
# Transactions

Both forms of a transaction are strict, and the header of an item tells them
apart: a record is a list, and an envelope is not.
-/

namespace ChainWire
namespace Codec

theorem recipient_strict : recipient.Strict := by
  apply Strict.of_string fun x : Option Address => (x.map Octets.bytes).getD []
  · intro x
    cases x <;> rfl
  · intro b
    rfl
  · intro data
    exact .ite .ok (.dite (fun _ => .ok) fun _ => .fail)
  · intro x
    cases x with
    | none =>
        rfl
    | some a =>
        have hempty : a.bytes.isEmpty = false := by
          cases hbytes : a.bytes with
          | nil =>
              have hlength := a.length_eq
              rw [hbytes] at hlength
              cases hlength
          | cons x xs =>
              rfl
        simp [hempty, a.length_eq]
  · intro data x h
    split at h
    · rename_i hempty
      cases h
      exact (List.isEmpty_iff.mp hempty).symm
    · split at h
      · cases h
        rfl
      · cases h

theorem legacyTransaction_strict : legacyTransaction.Strict := by
  apply Strict.through
  · exact .record <| .cons (uint_strict 8) <| .cons (uint_strict 32) <| .cons (uint_strict 8) <|
      .cons recipient_strict <| .cons (uint_strict 32) <| .cons bytes_strict <|
      .cons (uint_strict 32) <| .cons (uint_strict 32) <| .one (uint_strict 32)
  · intro t
    rfl
  · intro fields
    rfl

theorem transaction_itemWise : transaction.decode.ItemWise := by
  apply Decoder.ItemWise.peek
  intro h
  apply Or.inl
  cases h.isList with
  | false =>
      exact TypedEnvelope.decode_itemWise.map _
  | true =>
      exact legacyTransaction_strict.itemWise.map _

theorem transaction_roundTripsAt (t : Transaction) : transaction.RoundTripsAt t := by
  intro e he
  cases t with
  | legacy t =>
      rcases (record_encode_eq_ok "legacy transaction").mp he with ⟨payload, _, rfl⟩
      refine ⟨true, payload, rfl, ?_⟩
      intro hlimit
      have hwhole : Item.IsWhole (Item.wrap true payload) := Item.isWhole_wrap hlimit
      have hread := (legacyTransaction_strict.roundTrips t).decode_eq_ok he hwhole
      show (Header.peek (Item.wrap true payload)).andThen _ = _
      rw [Header.peek_wrap hlimit, Read.andThen_ok, if_pos rfl, Item.wrap_true, hread,
        Read.map_ok]
  | typed type payload =>
      rcases TypedEnvelope.encode_eq_ok_iff.mp he with ⟨htype, rfl⟩
      refine ⟨false, type :: payload, rfl, ?_⟩
      intro hlimit
      have hread := TypedEnvelope.decode_ofString htype hlimit
      show (Header.peek (Item.wrap false (type :: payload))).andThen _ = _
      rw [Header.peek_wrap hlimit, Read.andThen_ok, if_neg Bool.false_ne_true, Item.wrap_false,
        hread, Read.map_ok]

theorem transaction_canonicalAt (e : Bytes) : transaction.CanonicalAt e := by
  intro t h
  rcases Read.andThen_eq_ok h with ⟨header, left, hpeek, hread⟩
  have hleft := Header.eq_of_peek_eq_ok hpeek
  subst hleft
  split at hread
  · rcases Read.map_eq_ok hread with ⟨legacy, hlegacy, rfl⟩
    exact legacyTransaction_strict.canonical left legacy hlegacy
  · rcases Read.map_eq_ok hread with ⟨⟨type, payload⟩, htyped, rfl⟩
    have he := TypedEnvelope.eq_ofString_of_decode htyped
    rw [List.append_nil] at he
    exact TypedEnvelope.encode_eq_ok_iff.mpr ⟨(TypedEnvelope.string_of_decode htyped).1, he⟩

theorem transaction_strict : transaction.Strict where
  itemWise := transaction_itemWise
  roundTrips := transaction_roundTripsAt
  canonical := transaction_canonicalAt

end Codec
end ChainWire
