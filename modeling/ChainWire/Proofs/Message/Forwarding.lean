import ChainWire.Proofs.Message.Framing

/-!
# Passing messages on

A message that was read leaves as it came, with the same code and the same
bytes.  A relay can rely on this for every message, whatever the items are
that it leaves unread.  A reader of all items can rely on it as well, unless a
receipt came in an envelope of type zero.
-/

namespace ChainWire
namespace Version

theorem encode_of_decodeAs {v : Version} {k : Kind} {b : Bytes} {p : Packet}
    (h : v.decodeAs k b = .ok p)
    (hcanonical : Item.IsWhole b -> forall f e, v.framing k = some f ->
      f.Lays p.requestId e b -> k.codec.CanonicalAt e) :
    v.encode p = .ok (k.code, b) := by
  rcases decodeAs_eq_ok_iff.mp h with ⟨f, hframing, hexact⟩
  rcases Framing.lays_of_decode hexact with ⟨e, hb, hlays, hbody⟩
  rcases Message.encode_of_decode_eq_ok hbody (hcanonical hb f e hframing hlays) with ⟨hkind, he⟩
  apply encode_eq_ok_iff.mpr
  rw [Packet.kind, hkind]
  exact ⟨f, e, hframing, he, hlays, rfl⟩

theorem encode_of_decodeRelay {v : Version} {code : Nat} {b : Bytes} {p : Packet}
    (h : v.decodeRelay code b = .ok p) : v.encode p = .ok (code, b) := by
  rcases Outcome.bind_eq_ok_iff.mp h with ⟨k, hkind, hread⟩
  rcases kindOfCode_eq_ok hkind with ⟨_, rfl, _⟩
  rw [← k.code_relayed]
  apply encode_of_decodeAs hread
  intro _ f e _ _
  apply Kind.codec_canonicalAt
  cases k <;> decide

/-!
## Receipts
-/

/-- The receipts of a payload, in the form in which they came. -/
def receiptItems (v : Version) (b : Bytes) : List RawItem :=
  match v.decodeRelay Kind.receipts.code b with
  | .error _ => []
  | .ok p =>
      p.message.rawItems.flatMap fun block =>
        match block.read (Codec.list .raw).decode with
        | .error _ => []
        | .ok items => items

section Receipts

variable {v : Version} {f : Framing} {id : Option RequestId} {e b : Bytes} {blocks : List Bytes}

theorem receiptItems_eq (hframing : v.framing .receipts = some f) (hlays : f.Lays id e b)
    (hb : Item.IsWhole b) (hblocks : Item.IsListOf blocks e) :
    v.receiptItems b = blocks.flatMap fun block =>
      match RawItem.read (Codec.list .raw).decode ⟨block⟩ with
      | .error _ => []
      | .ok items => items := by
  have hbody : Message.decode .receiptsRaw e =
      .ok ⟨.receiptsRaw, blocks.map RawItem.mk⟩ [] :=
    Message.decode_eq_ok_iff.mpr ⟨_, Codec.list_raw_decode hblocks, rfl⟩
  have hread : v.decodeRelay Kind.receipts.code b =
      .ok ⟨id, ⟨.receiptsRaw, blocks.map RawItem.mk⟩⟩ := by
    rw [decodeRelay_code (framing_eq_some_iff.mp hframing).1]
    -- Both forms of the kind are laid out in one way.
    exact decodeAs_eq_ok_iff.mpr
      ⟨f, hframing, Framing.decode_of_lays hlays hb hblocks.isWhole hbody⟩
  unfold receiptItems
  rw [hread]
  show (blocks.map RawItem.mk).flatMap _ = _
  rw [List.flatMap_map]

theorem read_block {items : List Bytes} {block : Bytes} (hitems : Item.IsListOf items block) :
    RawItem.read (Codec.list .raw).decode ⟨block⟩ = .ok (items.map RawItem.mk) :=
  Decoder.exact_eq_ok_iff.mpr (Codec.list_raw_decode hitems)

theorem mem_receiptItems (hframing : v.framing .receipts = some f) (hlays : f.Lays id e b)
    (hb : Item.IsWhole b) (hblocks : Item.IsListOf blocks e) {block i : Bytes}
    (hblock : block ∈ blocks) {items : List Bytes} (hitems : Item.IsListOf items block)
    (hi : i ∈ items) : ⟨i⟩ ∈ v.receiptItems b := by
  rw [receiptItems_eq hframing hlays hb hblocks]
  apply List.mem_flatMap.mpr
  refine ⟨block, hblock, ?_⟩
  rw [read_block hitems]
  exact List.mem_map_of_mem hi

end Receipts

/--
A message that is relayed leaves with the code and the bytes with which it
came.  The same holds of a message that is read with all its items, where no
receipt is a byte string that starts with the byte zero.
-/
theorem encode_forwarded :
    (forall (v : Version) (code : Nat) (b : Bytes) (p : Packet),
      v.decodeRelay code b = .ok p -> v.encode p = .ok (code, b)) ∧
    (forall (v : Version) (code : Nat) (b : Bytes) (p : Packet),
      v.decode code b = .ok p ->
      (code = 0x10 -> forall r, r ∈ v.receiptItems b -> ¬ Item.StartsZero r.bytes) ->
      v.encode p = .ok (code, b)) := by
  constructor
  · intro v code b p h
    exact encode_of_decodeRelay h
  · intro v code b p h hzero
    rcases Outcome.bind_eq_ok_iff.mp h with ⟨k, hkind, hread⟩
    rcases kindOfCode_eq_ok hkind with ⟨_, rfl, _⟩
    apply encode_of_decodeAs hread
    intro hb f e hframing hlays
    by_cases hreceipts : k = .receipts
    · subst hreceipts
      apply Kind.codec_receipts_canonicalAt
      intro blocks hblocks block hblock items hitems i hi
      exact hzero rfl _ (mem_receiptItems hframing hlays hb hblocks hblock hitems hi)
    · exact Kind.codec_canonicalAt hreceipts e

/-- A receipt of type two: successful, without gas, bloom bits or logs. -/
def typedReceipt : Bytes :=
  [0xB9, 1, 0x0A, 2, 0xF9, 1, 6, 1, 0x80, 0xB9, 1, 0] ++ List.replicate 256 0 ++ [0xC0]

set_option maxRecDepth 4000 in
/-- Block bodies that cannot be read, and a typed receipt. -/
theorem encode_forwarded_typedReceipt :
    (eth66.decodeRelay 0x06 [0xC6, 0x07, 0xC4, 0x83, 99, 97, 116] =
        .ok ⟨some ⟨7, by decide⟩, ⟨.blockBodiesRaw, [⟨[0x83, 99, 97, 116]⟩]⟩⟩ ∧
      eth66.encode ⟨some ⟨7, by decide⟩, ⟨.blockBodiesRaw, [⟨[0x83, 99, 97, 116]⟩]⟩⟩ =
        .ok (0x06, [0xC6, 0x07, 0xC4, 0x83, 99, 97, 116])) ∧
    (eth65.decode 0x10 ([0xF9, 1, 0x10] ++ ([0xF9, 1, 0x0D] ++ typedReceipt)) =
        .ok ⟨none, ⟨.receipts, [[⟨2, .success, ⟨0, by decide⟩, default, []⟩]]⟩⟩ ∧
      eth65.encode ⟨none, ⟨.receipts, [[⟨2, .success, ⟨0, by decide⟩, default, []⟩]]⟩⟩ =
        .ok (0x10, [0xF9, 1, 0x10] ++ ([0xF9, 1, 0x0D] ++ typedReceipt))) := by
  have hrelay : eth66.decodeRelay 0x06 [0xC6, 0x07, 0xC4, 0x83, 99, 97, 116] =
      .ok ⟨some ⟨7, by decide⟩, ⟨.blockBodiesRaw, [⟨[0x83, 99, 97, 116]⟩]⟩⟩ := rfl
  have hread : eth65.decode 0x10 ([0xF9, 1, 0x10] ++ ([0xF9, 1, 0x0D] ++ typedReceipt)) =
      .ok ⟨none, ⟨.receipts, [[⟨2, .success, ⟨0, by decide⟩, default, []⟩]]⟩⟩ := by
    rfl
  have hitem : Item.string typedReceipt = .ok (typedReceipt.drop 3) [] := by
    rfl
  have hblock : Item.IsListOf [typedReceipt] ([0xF9, 1, 0x0D] ++ typedReceipt) := by
    apply Item.isListOf_of_payload
    · rfl
    · intro e he
      rw [List.mem_singleton.mp he]
      exact Item.isWhole_of_string hitem
  have hbody : Item.IsListOf [[0xF9, 1, 0x0D] ++ typedReceipt]
      ([0xF9, 1, 0x10] ++ ([0xF9, 1, 0x0D] ++ typedReceipt)) := by
    apply Item.isListOf_of_payload
    · rfl
    · intro e he
      rw [List.mem_singleton.mp he]
      exact hblock.isWhole
  refine ⟨⟨hrelay, encode_forwarded.1 _ _ _ _ hrelay⟩, hread, ?_⟩
  apply encode_forwarded.2 _ _ _ _ hread
  intro _ r hr hzero
  rw [receiptItems_eq (f := .bare) rfl .bare hbody.isWhole hbody, List.flatMap_singleton,
    read_block hblock] at hr
  rw [List.mem_singleton.mp hr] at hzero
  rcases hzero with ⟨tail, htail⟩
  cases hitem.symm.trans htail

end Version
end ChainWire
