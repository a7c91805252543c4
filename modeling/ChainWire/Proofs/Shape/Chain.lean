import ChainWire.Proofs.Chain.Block
import ChainWire.Proofs.Chain.BlockRef
import ChainWire.Proofs.Chain.Receipt
import ChainWire.Proofs.Shape.Reading

/-!
# Chain data by shape

Each type of chain data is read by its shape, at the number of levels that its
lists take.  The unions look at the header first; it tells a list from a byte
string, which is what their shapes differ in.
-/

namespace ChainWire

open Header (payloadLimit)

theorem TypedEnvelope.isReserved_eq_false_iff {type : UInt8} :
    isReserved type = false <-> type.toNat < 0x80 := by
  unfold isReserved
  rw [decide_eq_false_iff_not, Nat.not_le]
  rfl

def BlockRef.bytes : BlockRef -> Bytes
  | hash h => h.bytes
  | number n => n.trimmed

namespace Codec

/-!
## Transactions
-/

theorem recipient_reads (levels : Nat) : recipient.Reads Shape.recipient (levels + 1) := by
  apply Reads.of_strict_string recipient_strict fun x => (x.map Octets.bytes).getD []
  · intro x
    cases x <;> rfl
  · intro x v
    cases x <;> rfl

theorem legacyTransaction_reads (levels : Nat) :
    legacyTransaction.Reads Shape.legacyTransaction (levels + 2) := by
  apply Reads.through
  · exact .record <| .cons (uint_reads 8 levels) <| .cons (uint_reads 32 levels) <|
      .cons (uint_reads 8 levels) <| .cons (recipient_reads levels) <|
      .cons (uint_reads 32 levels) <| .cons (bytes_reads levels) <|
      .cons (uint_reads 32 levels) <| .cons (uint_reads 32 levels) <|
      .one (uint_reads 32 levels)
  · intro t
    rfl
  · intro fields
    rfl
  · intro t v
    rfl

theorem transaction_reads (levels : Nat) :
    transaction.Reads Shape.transaction (levels + 2) where
  itemWise := transaction_itemWise
  exists_value := by
    intro e t h
    rcases Read.andThen_eq_ok h with ⟨header, left, hpeek, hread⟩
    have hleft := Header.eq_of_peek_eq_ok hpeek
    subst hleft
    split at hread
    · rcases Read.map_eq_ok hread with ⟨t, ht, rfl⟩
      exact (legacyTransaction_reads levels).exists_value ht
    · rcases Read.map_eq_ok hread with ⟨⟨type, payload⟩, ht, rfl⟩
      have he := TypedEnvelope.eq_ofString_of_decode ht
      have htype := (TypedEnvelope.string_of_decode ht).1
      refine ⟨.bytes (type :: payload), ?_, Value.fitsIn_bytes _ _, ?_, rfl⟩
      · rw [he, List.append_nil, Value.encode_bytes]
      · exact TypedEnvelope.isReserved_eq_false_iff.mp htype
  decode_encode := by
    intro t v hlimit hshape
    show (Header.peek v.encode).andThen _ = _
    cases t with
    | legacy t =>
        have hread := (legacyTransaction_reads levels).decode_encode hlimit hshape
        rcases hshape with ⟨vs, rfl, _⟩
        rw [Value.peek_encode_list hlimit, Read.andThen_ok, if_pos rfl, hread, Read.map_ok]
    | typed type payload =>
        rcases hshape with ⟨htype, rfl⟩
        have hread := TypedEnvelope.decode_ofString
          (TypedEnvelope.isReserved_eq_false_iff.mpr htype) hlimit
        rw [Value.peek_encode_bytes hlimit, Read.andThen_ok, if_neg Bool.false_ne_true,
          Value.encode_bytes, hread, Read.map_ok]

/-!
## Receipts
-/

theorem log_reads (levels : Nat) : log.Reads Shape.log (levels + 3) := by
  apply Reads.through
  · exact .record <| .cons (octets_reads 20 _) <| .cons (octets_reads 32 levels).list <|
      .one (bytes_reads _)
  · intro l
    rfl
  · intro fields
    rfl
  · intro l v
    rfl

theorem receiptStatus_reads (levels : Nat) :
    receiptStatus.Reads Shape.receiptStatus (levels + 1) := by
  apply Reads.of_strict_string receiptStatus_strict ReceiptStatus.bytes
  · intro s
    cases s <;> rfl
  · intro s v
    cases s <;> rfl

theorem receiptFields_reads (levels : Nat) :
    receiptFields.Reads
      (fun p => Shape.record [Shape.receiptStatus p.1, Shape.uint p.2.1, Shape.octets p.2.2.1,
        Shape.sequence Shape.log p.2.2.2]) (levels + 5) :=
  .record <| .cons (receiptStatus_reads _) <| .cons (uint_reads 8 _) <|
    .cons (octets_reads 256 _) <| .one (log_reads levels).list

theorem receiptRecord_decode_eq_ok_iff {type : UInt8} {e : Bytes} {r : Receipt} :
    (receiptRecord type).decode e = .ok r [] <->
      r.type = type ∧
        receiptFields.decode e = .ok (r.status, r.cumulativeGasUsed, r.bloom, r.logs) [] := by
  constructor
  · intro h
    rcases Read.map_eq_ok h with ⟨fields, hfields, rfl⟩
    exact ⟨rfl, hfields⟩
  · rintro ⟨rfl, hfields⟩
    show (receiptFields.decode e).map _ = _
    rw [hfields]
    rfl

theorem receiptRecord_exact_iff {type : UInt8} {payload : Bytes} {r : Receipt} :
    (receiptRecord type).decode.exact payload = .ok r <->
      r.type = type ∧
        exists u, Decoder.exact Value.decode payload = .ok u ∧ Shape.receiptRecord r u := by
  rw [Decoder.exact_eq_ok_iff, receiptRecord_decode_eq_ok_iff,
    (receiptFields_reads 0).decode_eq_ok_iff (by decide)]
  rfl

theorem receipt_reads (levels : Nat) : receipt.Reads Shape.receipt (levels + 5) where
  itemWise := receipt_itemWise
  exists_value := by
    intro e r h
    rcases Read.andThen_eq_ok h with ⟨header, left, hpeek, hread⟩
    have hleft := Header.eq_of_peek_eq_ok hpeek
    subst hleft
    split at hread
    · rcases receiptRecord_decode_eq_ok_iff.mp hread with ⟨htype, hfields⟩
      rcases (receiptFields_reads levels).exists_value hfields with ⟨v, he, hfits, hshape⟩
      exact ⟨v, he, hfits, Or.inl ⟨htype, hshape⟩⟩
    · rcases Read.andThen_eq_ok hread with ⟨⟨type, payload⟩, rest, henvelope, hinner⟩
      have he := TypedEnvelope.eq_ofString_of_decode henvelope
      have htype := (TypedEnvelope.string_of_decode henvelope).1
      dsimp only at hinner
      split at hinner
      · rename_i receipt hexact
        cases hinner
        -- The record is read as an input of its own, so its nesting counts from zero again.
        rcases receiptRecord_exact_iff.mp hexact with ⟨rfl, u, hu, hshape⟩
        refine ⟨.bytes (r.type :: payload), ?_, Value.fitsIn_bytes _ _, Or.inr ?_⟩
        · rw [he, List.append_nil, Value.encode_bytes]
        · exact ⟨TypedEnvelope.isReserved_eq_false_iff.mp htype, payload, u, rfl, hu, hshape⟩
      · cases hinner
  decode_encode := by
    intro r v hlimit hshape
    show (Header.peek v.encode).andThen _ = _
    rcases hshape with ⟨htype, hshape⟩ | ⟨htype, payload, u, rfl, hu, hshape⟩
    · have hfields := (receiptFields_reads levels).decode_encode
        (x := (r.status, r.cumulativeGasUsed, r.bloom, r.logs)) hlimit hshape
      have hread := receiptRecord_decode_eq_ok_iff.mpr ⟨htype, hfields⟩
      rcases hshape with ⟨vs, rfl, _⟩
      rw [Value.peek_encode_list hlimit, Read.andThen_ok, if_pos rfl, hread]
    · have hread := TypedEnvelope.decode_ofString
        (TypedEnvelope.isReserved_eq_false_iff.mpr htype) hlimit
      have hexact := receiptRecord_exact_iff.mpr ⟨rfl, u, hu, hshape⟩
      rw [Value.peek_encode_bytes hlimit, Read.andThen_ok, if_neg Bool.false_ne_true,
        Value.encode_bytes, hread, Read.andThen_ok]
      dsimp only
      rw [hexact]

/-!
## Blocks
-/

theorem blockHeader_reads (levels : Nat) :
    blockHeader.Reads Shape.blockHeader (levels + 2) := by
  apply Reads.through
  · exact .record <| .cons (octets_reads 32 levels) <| .cons (octets_reads 32 levels) <|
      .cons (octets_reads 20 levels) <| .cons (octets_reads 32 levels) <|
      .cons (octets_reads 32 levels) <| .cons (octets_reads 32 levels) <|
      .cons (octets_reads 256 levels) <| .cons (uint_reads 32 levels) <|
      .cons (uint_reads 32 levels) <| .cons (uint_reads 8 levels) <|
      .cons (uint_reads 8 levels) <| .cons (uint_reads 8 levels) <|
      .cons (bytes_reads levels) <| .cons (octets_reads 32 levels) <|
      .cons (octets_reads 8 levels) <| .optional (uint_reads 32 levels)
  · intro h
    rfl
  · intro fields
    rfl
  · intro h v
    rfl

theorem blockBody_reads (levels : Nat) : blockBody.Reads Shape.blockBody (levels + 4) := by
  apply Reads.through
  · exact .record <| .cons (transaction_reads levels).list <|
      .one (blockHeader_reads levels).list
  · intro b
    rfl
  · intro fields
    rfl
  · intro b v
    rfl

theorem block_reads (levels : Nat) : block.Reads Shape.block (levels + 4) := by
  apply Reads.through
  · exact .record <| .cons (blockHeader_reads _) <| .cons (transaction_reads levels).list <|
      .one (blockHeader_reads levels).list
  · intro b
    rfl
  · intro fields
    rfl
  · intro b v
    rfl

theorem blockRef_reads (levels : Nat) : blockRef.Reads Shape.blockRef (levels + 1) := by
  apply Reads.of_strict_string blockRef_strict BlockRef.bytes
  · intro ref
    cases ref <;> rfl
  · intro ref v
    cases ref with
    | hash h =>
        rfl
    | number n =>
        exact Shape.uint_iff

end Codec
end ChainWire
