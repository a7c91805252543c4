import ChainWire.Message.Body
import ChainWire.Proofs.Chain.Block
import ChainWire.Proofs.Chain.BlockRef
import ChainWire.Proofs.Chain.Receipt

/-!
# The laws of message bodies

Bodies are lawful for every kind with all items read, and strict for all these
kinds but receipts.  A raw body passes on whatever items it holds, so what it
holds must be items for it to be read back.
-/

namespace ChainWire

namespace Codec

theorem voteData_strict : voteData.Strict := by
  apply Strict.through
  · exact .record <| .cons (uint_strict 8) <| .cons (octets_strict 32) <|
      .cons (uint_strict 8) <| .one (octets_strict 32)
  · intro d
    rfl
  · intro fields
    rfl

theorem vote_strict : vote.Strict := by
  apply Strict.through
  · exact .record <| .cons (octets_strict 48) <| .cons (octets_strict 96) <|
      .one voteData_strict
  · intro v
    rfl
  · intro fields
    rfl

theorem forkId_strict : forkId.Strict := by
  apply Strict.through
  · exact .record <| .cons (octets_strict 4) <| .one (uint_strict 8)
  · intro f
    rfl
  · intro fields
    rfl

theorem status_strict : status.Strict := by
  apply Strict.through
  · exact .record <| .cons (uint_strict 4) <| .cons (uint_strict 8) <|
      .cons (uint_strict 32) <| .cons (octets_strict 32) <| .cons (octets_strict 32) <|
      .one forkId_strict
  · intro s
    rfl
  · intro fields
    rfl

theorem blockAnnouncement_strict : blockAnnouncement.Strict := by
  apply Strict.through
  · exact .record <| .cons (octets_strict 32) <| .one (uint_strict 8)
  · intro a
    rfl
  · intro fields
    rfl

theorem headerQuery_strict : headerQuery.Strict := by
  apply Strict.through
  · exact .record <| .cons blockRef_strict <| .cons (uint_strict 8) <|
      .cons (uint_strict 8) <| .one bool_strict
  · intro q
    rfl
  · intro fields
    rfl

theorem blockPropagation_strict : blockPropagation.Strict := by
  apply Strict.through
  · exact .record <| .cons block_strict <| .one (uint_strict 32)
  · intro p
    rfl
  · intro fields
    rfl

theorem voteBatch_strict : voteBatch.Strict := by
  apply Strict.through
  · exact .record <| .one vote_strict.list
  · intro b
    rfl
  · intro votes
    rfl

end Codec

/-!
## Kinds
-/

namespace Kind

def rawItems : (k : Kind) -> k.Body -> List RawItem
  | blockBodiesRaw, items => items
  | pooledTransactionsRaw, items => items
  | receiptsRaw, items => items
  | _, _ => []

theorem codec_strict {k : Kind} (hraw : k.isRaw = false) (hreceipts : k ≠ receipts) :
    k.codec.Strict := by
  cases k with
  | status =>
      exact Codec.status_strict
  | newBlockHashes =>
      exact Codec.blockAnnouncement_strict.list
  | transactions =>
      exact Codec.transaction_strict.list
  | getBlockHeaders =>
      exact Codec.headerQuery_strict
  | blockHeaders =>
      exact Codec.blockHeader_strict.list
  | blockBodies =>
      exact Codec.blockBody_strict.list
  | newBlock =>
      exact Codec.blockPropagation_strict
  | pooledTransactions =>
      exact Codec.transaction_strict.list
  | nodeData =>
      exact Codec.bytes_strict.list
  | votes =>
      exact Codec.voteBatch_strict
  | getBlockBodies | newPooledTransactionHashes | getPooledTransactions | getNodeData
  | getReceipts =>
      exact (Codec.octets_strict 32).list
  | receipts =>
      exact absurd rfl hreceipts
  | blockBodiesRaw | pooledTransactionsRaw | receiptsRaw =>
      cases hraw

theorem codec_lawful {k : Kind} (hraw : k.isRaw = false) : k.codec.Lawful := by
  by_cases hreceipts : k = receipts
  · subst hreceipts
    exact Codec.receipt_lawful.list.list
  · exact (codec_strict hraw hreceipts).toLawful

theorem codec_itemWise (k : Kind) : k.codec.decode.ItemWise := by
  cases hraw : k.isRaw with
  | false =>
      exact (codec_lawful hraw).itemWise
  | true =>
      cases k with
      | blockBodiesRaw | pooledTransactionsRaw | receiptsRaw =>
          exact Codec.list_itemWise .raw
      | _ =>
          cases hraw

theorem codec_roundTripsAt {k : Kind} {body : k.Body}
    (hitems : forall r, r ∈ k.rawItems body -> r.WellFormed) : k.codec.RoundTripsAt body := by
  cases hraw : k.isRaw with
  | false =>
      exact (codec_lawful hraw).roundTrips body
  | true =>
      cases k with
      | blockBodiesRaw | pooledTransactionsRaw | receiptsRaw =>
          apply Codec.RoundTripsAt.list RawItem.decode_itemWise
          intro r hr
          exact Codec.raw_roundTripsAt (hitems r hr)
      | _ =>
          cases hraw

theorem codec_canonicalAt {k : Kind} (hreceipts : k ≠ receipts) (e : Bytes) :
    k.codec.CanonicalAt e := by
  cases hraw : k.isRaw with
  | false =>
      exact (codec_strict hraw hreceipts).canonical e
  | true =>
      cases k with
      | blockBodiesRaw | pooledTransactionsRaw | receiptsRaw =>
          apply Codec.CanonicalAt.list RawItem.decode_itemWise
          intro parts _ p _
          exact Codec.raw_canonicalAt p
      | _ =>
          cases hraw

theorem codec_receipts_canonicalAt {e : Bytes}
    (hzero : forall blocks, Item.IsListOf blocks e -> forall b, b ∈ blocks ->
      forall items, Item.IsListOf items b -> forall i, i ∈ items -> ¬ Item.StartsZero i) :
    receipts.codec.CanonicalAt e := by
  apply Codec.CanonicalAt.list Codec.receipt_lawful.list.itemWise
  intro blocks hblocks b hb
  apply Codec.CanonicalAt.list Codec.receipt_itemWise
  intro items hitems i hi
  exact Codec.receipt_canonicalAt (hzero blocks hblocks b hb items hitems i hi)

end Kind

/-!
## Messages
-/

namespace Message

def rawItems (m : Message) : List RawItem :=
  m.kind.rawItems m.body

/-- Whatever is kept unread is at least an item. -/
def WellFormed (m : Message) : Prop :=
  forall r, r ∈ m.rawItems -> r.WellFormed

theorem decode_itemWise (k : Kind) : (decode k).ItemWise :=
  (Kind.codec_itemWise k).map _

theorem decode_eq_ok_iff {k : Kind} {b rest : Bytes} {m : Message} :
    decode k b = .ok m rest <-> exists body, k.codec.decode b = .ok body rest ∧ m = ⟨k, body⟩ := by
  constructor
  · intro h
    exact Read.map_eq_ok h
  · rintro ⟨body, hbody, rfl⟩
    show (k.codec.decode b).map _ = _
    rw [hbody, Read.map_ok]

theorem isWhole_of_encode {m : Message} (hm : m.WellFormed) {e : Bytes} (he : m.encode = .ok e)
    (hlength : e.length < Header.payloadLimit) :
    Item.IsWhole e ∧ decode m.kind e = .ok m [] := by
  rcases (Kind.codec_roundTripsAt hm).isWhole he hlength with ⟨hwhole, hbody⟩
  constructor
  · exact hwhole
  · exact decode_eq_ok_iff.mpr ⟨m.body, hbody, rfl⟩

theorem encode_of_decode_eq_ok {k : Kind} {e : Bytes} {m : Message} (h : decode k e = .ok m [])
    (hcanonical : k.codec.CanonicalAt e) : m.kind = k ∧ m.encode = .ok e := by
  rcases decode_eq_ok_iff.mp h with ⟨body, hbody, rfl⟩
  constructor
  · rfl
  · exact hcanonical body hbody

end Message
end ChainWire
