import ChainWire.ItemType
import ChainWire.Proofs.Message.Prewriting
import ChainWire.Proofs.Value.Basic

/-!
# Items of every type

Whatever its type, an item is read by itself, and what is written is an item,
whether or not it can be read back.  Raw items are the exception to the second
law: they are written as they are, so it comes down to how they were built.
-/

namespace ChainWire
namespace ItemType

/-!
## Reading and writing
-/

/--
Whether all values of the type can be read back.  A value may be nested too
deeply for that, and a raw item may hold no item.
-/
def roundTrips : ItemType -> Bool
  | value | raw => false
  | list items => items.roundTrips
  | body kind => !kind.isRaw
  | _ => true

theorem codec_lawful {t : ItemType} (h : t.roundTrips = true) : t.codec.Lawful := by
  induction t with
  | uint width =>
      exact (Codec.uint_strict width).toLawful
  | bool =>
      exact Codec.bool_strict.toLawful
  | bytes =>
      exact Codec.bytes_strict.toLawful
  | octets width =>
      exact (Codec.octets_strict width).toLawful
  | value | raw =>
      cases h
  | list items ih =>
      exact (ih h).list
  | blockRef =>
      exact Codec.blockRef_strict.toLawful
  | legacyTransaction =>
      exact Codec.legacyTransaction_strict.toLawful
  | transaction =>
      exact Codec.transaction_strict.toLawful
  | log =>
      exact Codec.log_strict.toLawful
  | receiptStatus =>
      exact Codec.receiptStatus_strict.toLawful
  | receipt =>
      exact Codec.receipt_lawful
  | blockHeader =>
      exact Codec.blockHeader_strict.toLawful
  | blockBody =>
      exact Codec.blockBody_strict.toLawful
  | block =>
      exact Codec.block_strict.toLawful
  | voteData =>
      exact Codec.voteData_strict.toLawful
  | vote =>
      exact Codec.vote_strict.toLawful
  | forkId =>
      exact Codec.forkId_strict.toLawful
  | blockAnnouncement =>
      exact Codec.blockAnnouncement_strict.toLawful
  | body kind =>
      apply Kind.codec_lawful
      simpa [roundTrips] using h

theorem codec_itemWise (t : ItemType) : t.codec.decode.ItemWise := by
  cases h : t.roundTrips with
  | true =>
      exact (codec_lawful h).itemWise
  | false =>
      cases t with
      | value =>
          exact Value.decodeWithin_itemWise Value.maxDepth
      | raw =>
          exact RawItem.decode_itemWise
      | list items =>
          exact Codec.list_itemWise items.codec
      | body kind =>
          exact Kind.codec_itemWise kind
      | _ =>
          cases h

theorem codec_encode_eq_wrap {t : ItemType} (ht : t ≠ raw) {x : t.Carrier} {e : Bytes}
    (he : t.codec.encode x = .ok e) :
    exists (isList : Bool) (payload : Bytes), e = Item.wrap isList payload := by
  cases h : t.roundTrips with
  | true =>
      rcases (codec_lawful h).roundTrips x e he with ⟨isList, payload, hwrap, _⟩
      exact ⟨isList, payload, hwrap⟩
  | false =>
      cases t with
      | value =>
          cases he
          exact ⟨_, _, Value.encode_eq_wrap x⟩
      | raw =>
          exact absurd rfl ht
      | list items =>
          rcases Codec.list_encode_eq_ok_iff.mp he with ⟨payload, _, rfl⟩
          exact ⟨true, payload, rfl⟩
      | body kind =>
          cases kind with
          | blockBodiesRaw | pooledTransactionsRaw | receiptsRaw =>
              rcases Codec.list_encode_eq_ok_iff.mp he with ⟨payload, _, rfl⟩
              exact ⟨true, payload, rfl⟩
          | _ =>
              cases h
      | _ =>
          cases h

/-!
## Raw items
-/

def rawItems : (t : ItemType) -> t.Carrier -> List RawItem
  | raw, r => [r]
  | list items, xs => xs.flatMap items.rawItems
  | body kind, x => kind.rawItems x
  | _, _ => []

end ItemType

namespace RawItem

/--
The ways to come by a raw item: from bytes that are one item, off the front of
an input, or from a typed item, whose own raw items were come by like this.
-/
inductive Built : RawItem -> Prop where
  | ofBytes {b : Bytes} {r : RawItem} (h : RawItem.ofBytes b = .ok r) : Built r
  | decode {b rest : Bytes} {r : RawItem} (h : RawItem.decode b = .ok r rest) : Built r
  | ofTyped {t : ItemType} {x : t.Carrier} {r : RawItem}
      (hitems : forall s, s ∈ t.rawItems x -> Built s)
      (h : RawItem.ofTyped t.codec x = .ok r) : Built r

theorem isWhole_of_ofBytes {b : Bytes} {r : RawItem} (h : ofBytes b = .ok r) :
    Item.IsWhole r.bytes := by
  rcases Outcome.bind_eq_ok_iff.mp h with ⟨n, hspan, hn⟩
  split at hn
  · rename_i hlength
    cases hn
    rw [hlength] at hspan
    exact (wellFormed_iff_isWhole ⟨b⟩).mp hspan
  · cases hn

theorem Built.isWhole {r : RawItem} (h : r.Built) (hlength : r.bytes.length < Header.payloadLimit) :
    Item.IsWhole r.bytes := by
  induction h with
  | ofBytes h =>
      exact isWhole_of_ofBytes h
  | decode h =>
      exact (eq_append_of_decode h).1
  | @ofTyped t x r hitems h ih =>
      have hbytes : t.codec.encode x = .ok r.bytes := ofTyped_eq_ok_iff.mp h
      by_cases ht : t = .raw
      · subst ht
        cases h
        exact ih x (List.mem_singleton_self x) hlength
      · rcases ItemType.codec_encode_eq_wrap ht hbytes with ⟨isList, payload, hwrap⟩
        rw [hwrap] at hlength ⊢
        exact Item.isWhole_wrap (Item.isWhole_of_length_lt hlength)

theorem Built.wellFormed {r : RawItem} (h : r.Built)
    (hlength : r.bytes.length < Header.payloadLimit) : r.WellFormed :=
  (wellFormed_iff_isWhole r).mpr (h.isWhole hlength)

end RawItem
end ChainWire
