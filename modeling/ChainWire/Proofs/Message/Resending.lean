import ChainWire.Proofs.Message.Forwarding
import ChainWire.Proofs.Message.Relay

/-!
# Receipts that are read and sent again

A receipt of type zero is written as a plain record, and its reader takes an
envelope of type zero as well.  So there are two items for each of these
receipts, and only one of them survives being read and written again.  This is
the only way in which a message can change: one that is passed on unread never
does, and one that is read does if and only if it holds such an envelope.

For lists the argument goes item by item.  No item is the front of another one,
so a list is written as it was received only if all its items are.
-/

namespace ChainWire

open Header (payloadLimit)

namespace Item

theorem eq_of_ofPayload_eq {payload payload' : Bytes} (hlimit : payload.length < payloadLimit)
    (heq : ofPayload payload' = ofPayload payload) : payload' = payload := by
  have hroom : payloadLimit + 9 <= BigEndian.bound 8 := by
    decide
  have hle := length_payload_le_length_wrap true payload'
  have hle' : (wrap true payload).length <= payload.length + 9 :=
    length_wrap_le (by omega)
  rw [wrap_true, heq, ← wrap_true] at hle
  have heq' : wrap true payload' ++ [] = wrap true payload ++ [] := by
    rw [wrap_true, wrap_true, heq]
  exact (wrap_append_inj (by omega) (by omega) heq').2.1

theorem IsListOf.flatten_eq {parts parts' : List Bytes} {b : Bytes} (h : IsListOf parts b)
    (h' : IsListOf parts' b) : parts'.flatten = parts.flatten :=
  eq_of_ofPayload_eq h.2.1 (h'.1.symm.trans h.1)

theorem isListOf_singleton {e b : Bytes} (he : IsWhole e) (hb : payload b = .ok e []) :
    IsListOf [e] b := by
  apply isListOf_of_payload
  · rw [List.flatten_singleton]
    exact hb
  · intro part hpart
    rw [List.mem_singleton.mp hpart]
    exact he

theorem eq_of_wrap_append_eq {isList : Bool} {payload e r s : Bytes} (he : IsWhole e)
    (hlength : (e ++ s).length < payloadLimit) (heq : wrap isList payload ++ r = e ++ s) :
    wrap isList payload = e ∧ r = s := by
  rcases he with ⟨isList', payload', rfl, hlimit'⟩
  have hbound : payloadLimit <= BigEndian.bound 8 := by
    decide
  have hle := length_payload_le_length_wrap isList payload
  rw [← heq, List.length_append] at hlength
  rcases wrap_append_inj (by omega) (by omega) heq with ⟨rfl, rfl, hrest⟩
  exact ⟨rfl, hrest⟩

end Item

namespace Codec

section Resending

variable {α : Type} {c : Codec α} {kept : Bytes -> Prop}

/-- What is read can be written, and it is written as it was received under one condition. -/
def Resends (c : Codec α) (kept : Bytes -> Prop) : Prop :=
  forall e x, c.decode e = .ok x [] -> exists e', c.encode x = .ok e' ∧ (e' = e <-> kept e)

theorem Resends.encodeAll (h : c.Resends kept) (hc : c.Lawful) {parts : List Bytes} {xs : List α}
    (hwhole : forall e, e ∈ parts -> Item.IsWhole e) (hlimit : parts.flatten.length < payloadLimit)
    (hrun : Decoder.Run c.decode parts.flatten xs) :
    exists payload, c.encodeAll xs = .ok payload ∧
      (payload = parts.flatten <-> forall e, e ∈ parts -> kept e) := by
  induction parts generalizing xs with
  | nil =>
      cases hrun with
      | nil =>
          exact ⟨[], rfl, by simp⟩
      | cons hread _ =>
          exact absurd (hc.itemWise.progresses hread) (Nat.not_lt_zero _)
  | cons e parts ih =>
      rw [List.flatten_cons, List.length_append] at hlimit
      rcases run_part_append hc.itemWise (hwhole e (by simp)) hrun with ⟨x, xs', rfl, hx, htail⟩
      rcases h e x hx with ⟨e', he', hkept⟩
      rcases ih (fun e he => hwhole e (by simp [he])) (by omega) htail with
        ⟨payload, hpayload, hrest⟩
      refine ⟨e' ++ payload, encodeAll_cons_eq_ok.mpr ⟨e', payload, he', hpayload, rfl⟩, ?_⟩
      rw [List.forall_mem_cons, ← hkept, ← hrest, List.flatten_cons]
      constructor
      · intro heq
        rcases hc.roundTrips x e' he' with ⟨isList, data, rfl, _⟩
        apply Item.eq_of_wrap_append_eq (hwhole e (by simp)) _ heq
        rw [List.length_append]
        exact hlimit
      · intro hsame
        rw [hsame.1, hsame.2]

theorem Resends.list (h : c.Resends kept) (hc : c.Lawful) :
    (list c).Resends fun e =>
      forall parts, Item.IsListOf parts e -> forall i, i ∈ parts -> kept i := by
  intro e xs hread
  rcases (list_decode_eq_ok_iff hc.itemWise).mp hread with ⟨payload, he, hlimit, hrun⟩
  rw [List.append_nil] at he
  rcases exists_parts hc.itemWise hrun with ⟨parts, rfl, hwhole⟩
  have hparts : Item.IsListOf parts e := ⟨he, hlimit, hwhole⟩
  rcases h.encodeAll hc hwhole hlimit hrun with ⟨payload, hpayload, hkept⟩
  refine ⟨Item.ofPayload payload, list_encode_eq_ok_iff.mpr ⟨payload, hpayload, rfl⟩, ?_⟩
  constructor
  · intro hsame parts' hparts'
    have hflatten := hparts.flatten_eq hparts'
    rw [← hflatten] at hrun
    rcases h.encodeAll hc hparts'.2.2 hparts'.2.1 hrun with ⟨payload', hpayload', hkept'⟩
    cases hpayload.symm.trans hpayload'
    apply hkept'.mp
    rw [hflatten]
    exact Item.eq_of_ofPayload_eq hlimit (hsame.trans he)
  · intro hall
    rw [hkept.mpr (hall parts hparts)]
    exact he.symm

end Resending

/-!
## Receipts
-/

section Receipts

variable {r : Receipt} {b b' e : Bytes}

theorem receipt_of_startsZero (hzero : Item.StartsZero b) (h : receipt.decode b = .ok r []) :
    r.type = 0 ∧ exists e, receipt.encode r = .ok e ∧ b = Item.ofString (0 :: e) := by
  rcases hzero with ⟨tail, htail⟩
  rcases receipt_eq_ok h with ⟨inner, hinner, ⟨_, _, hlist⟩ | ⟨_, hstring⟩⟩
  · exact absurd htail (hlist _)
  · rcases List.cons.inj (Read.ok.inj (hstring.symm.trans htail)).1 with ⟨htype, rfl⟩
    have hb := (Item.eq_ofString_of_string htail).1
    rw [List.append_nil] at hb
    refine ⟨htype, inner, receipt_encode_eq_ok.mpr ⟨inner, hinner, ?_⟩, hb⟩
    rw [if_pos htype]

theorem receipt_resends : receipt.Resends fun e => ¬ Item.StartsZero e := by
  intro b r h
  by_cases hzero : Item.StartsZero b
  · rcases receipt_of_startsZero hzero h with ⟨_, e, he, hb⟩
    refine ⟨e, he, ?_⟩
    have hlength := Item.length_payload_le_length_wrap false (0 :: e)
    rw [Item.wrap_false, ← hb, List.length_cons] at hlength
    constructor
    · intro hsame
      rw [hsame] at hlength
      exact absurd hlength (Nat.not_succ_le_self _)
    · intro hnot
      exact absurd hzero hnot
  · exact ⟨b, receipt_canonicalAt hzero r h, by simp [hzero]⟩

theorem receipt_encode_eq_ok_iff (h : receipt.decode.exact b = .ok r) :
    receipt.encode r = .ok b <-> ¬ Item.StartsZero b := by
  rcases receipt_resends b r (Decoder.exact_eq_ok_iff.mp h) with ⟨e, he, hkept⟩
  rw [he, Except.ok.injEq]
  exact hkept

/-- Every receipt of type zero has two encodings, and any other has one. -/
theorem receipt_exact_eq_ok_iff (hlength : b.length < payloadLimit) :
    receipt.decode.exact b = .ok r <->
      exists e, receipt.encode r = .ok e ∧ (b = e ∨ r.type = 0 ∧ b = Item.ofString (0 :: e)) := by
  rw [Decoder.exact_eq_ok_iff]
  constructor
  · intro h
    by_cases hzero : Item.StartsZero b
    · rcases receipt_of_startsZero hzero h with ⟨htype, e, he, hb⟩
      exact ⟨e, he, Or.inr ⟨htype, hb⟩⟩
    · exact ⟨b, receipt_canonicalAt hzero r h, Or.inl rfl⟩
  · intro h
    rcases h with ⟨e, he, hb | ⟨htype, hb⟩⟩
    · rw [hb] at hlength ⊢
      exact ((receipt_roundTripsAt r).isWhole he hlength).2
    · rcases receipt_encode_eq_ok.mp he with ⟨inner, hinner, hform⟩
      rw [if_pos htype] at hform
      have hlimit : (r.type :: inner).length < payloadLimit := by
        rw [hb, ← Item.wrap_false, hform, ← htype] at hlength
        exact Item.isWhole_of_length_lt hlength
      have hreserved : TypedEnvelope.isReserved r.type = false := by
        rw [htype]
        rfl
      rw [hb, hform, ← htype]
      exact receipt_decode_envelope hinner hreserved hlimit

theorem startsZero_iff_of_exact (h : receipt.decode.exact b = .ok r)
    (h' : receipt.decode.exact b' = .ok r) :
    b = b' <-> (Item.StartsZero b <-> Item.StartsZero b') := by
  constructor
  · intro hsame
    rw [hsame]
  · intro hforms
    by_cases hzero : Item.StartsZero b
    · have hzero' := hforms.mp hzero
      rcases receipt_of_startsZero hzero (Decoder.exact_eq_ok_iff.mp h) with ⟨_, e, he, hb⟩
      rcases receipt_of_startsZero hzero' (Decoder.exact_eq_ok_iff.mp h') with ⟨_, e', he', hb'⟩
      cases he.symm.trans he'
      exact hb.trans hb'.symm
    · have hzero' : ¬ Item.StartsZero b' := fun hz => hzero (hforms.mpr hz)
      have hb := (receipt_encode_eq_ok_iff h).mpr hzero
      have hb' := (receipt_encode_eq_ok_iff h').mpr hzero'
      exact Except.ok.inj (hb.symm.trans hb')

end Receipts

theorem exists_isListOf {α : Type} {c : Codec α} (hc : c.decode.ItemWise) {b : Bytes}
    {xs : List α} (h : (list c).decode b = .ok xs []) : exists parts, Item.IsListOf parts b := by
  rcases (list_decode_eq_ok_iff hc).mp h with ⟨payload, hb, hlimit, hrun⟩
  rw [List.append_nil] at hb
  rcases exists_parts hc hrun with ⟨parts, rfl, hwhole⟩
  exact ⟨parts, hb, hlimit, hwhole⟩

theorem isListOf_of_list_raw {b : Bytes} {raws : List RawItem}
    (h : (list raw).decode b = .ok raws []) :
    exists parts, Item.IsListOf parts b ∧ raws = parts.map RawItem.mk := by
  rcases exists_isListOf RawItem.decode_itemWise h with ⟨parts, hparts⟩
  rw [list_raw_decode hparts] at h
  cases h
  exact ⟨parts, hparts, rfl⟩

end Codec

/-!
## Receipts of a payload
-/

namespace Framing

theorem Lays.eq_iff {f : Framing} {id : Option RequestId} {e e' b b' : Bytes}
    (h : f.Lays id e b) (h' : f.Lays id e' b') (hb : Item.IsWhole b) : b' = b <-> e' = e := by
  cases h with
  | bare =>
      cases h' with
      | bare =>
          rfl
  | @withId id e =>
      cases h' with
      | withId =>
          rw [← Item.wrap_true] at hb
          constructor
          · intro heq
            exact List.append_cancel_left
              (Item.eq_of_ofPayload_eq (Item.isWhole_wrap_iff.mp hb) heq)
          · intro heq
            rw [heq]

end Framing

namespace Version

section Receipts

variable {v : Version} {f : Framing} {id : Option RequestId} {e b : Bytes} {p : Packet}

theorem forall_mem_receiptItems_iff (hframing : v.framing .receipts = some f)
    (hlays : f.Lays id e b) (hb : Item.IsWhole b) {blocks : List Bytes}
    (hblocks : Item.IsListOf blocks e) {P : Bytes -> Prop} :
    (forall r, r ∈ v.receiptItems b -> P r.bytes) <->
      forall block, block ∈ blocks -> forall items, Item.IsListOf items block ->
        forall i, i ∈ items -> P i := by
  constructor
  · intro h block hblock items hitems i hi
    exact h ⟨i⟩ (mem_receiptItems hframing hlays hb hblocks hblock hitems hi)
  · intro h r hr
    rw [receiptItems_eq hframing hlays hb hblocks] at hr
    rcases List.mem_flatMap.mp hr with ⟨block, hblock, hmem⟩
    split at hmem
    · cases hmem
    · rename_i items hread
      rcases Codec.isListOf_of_list_raw (Decoder.exact_eq_ok_iff.mp hread) with
        ⟨parts, hparts, rfl⟩
      rcases List.mem_map.mp hmem with ⟨i, hi, rfl⟩
      exact h block hblock parts hparts i hi

theorem encode_of_decode_receipts (h : v.decode 0x10 b = .ok p) :
    exists b', v.encode p = .ok (0x10, b') ∧
      (b' = b <-> forall r, r ∈ v.receiptItems b -> ¬ Item.StartsZero r.bytes) := by
  have hsupports : v.supports .receipts = true := by
    cases v <;> rfl
  have hread : v.decodeAs .receipts b = .ok p := (decode_code hsupports b).symm.trans h
  rcases decodeAs_eq_ok_iff.mp hread with ⟨f, hframing, hexact⟩
  rcases Framing.lays_of_decode hexact with ⟨e, hb, hlays, hbody⟩
  rcases Message.decode_eq_ok_iff.mp hbody with ⟨blocks, hblocks, hmessage⟩
  rcases (Codec.receipt_resends.list Codec.receipt_lawful).list Codec.receipt_lawful.list
      e blocks hblocks with ⟨e', he', hkept⟩
  rcases Codec.exists_isListOf Codec.receipt_lawful.list.itemWise hblocks with ⟨parts, hparts⟩
  have hfits : f.Fits p.requestId := (Framing.fits_iff_exists_lays e).mpr ⟨b, hlays⟩
  rcases (Framing.fits_iff_exists_lays e').mp hfits with ⟨b', hlays'⟩
  refine ⟨b', ?_, ?_⟩
  · apply encode_eq_ok_iff.mpr
    rw [Packet.kind, hmessage]
    exact ⟨f, e', hframing, he', hlays', rfl⟩
  · rw [hlays.eq_iff hlays' hb, hkept]
    constructor
    · intro hall
      exact (forall_mem_receiptItems_iff hframing hlays hb hparts).mpr (hall parts hparts)
    · intro hall parts' hparts'
      exact (forall_mem_receiptItems_iff hframing hlays hb hparts').mp hall

end Receipts

/-- A receipt has one encoding, or two if its type is zero: as a record, and in an envelope that
names the type.  It is written as a record then, so receipts that are read and sent again stay as
they came if none of them was in such an envelope.  Receipts that are relayed always do. -/
theorem receipts_resent (v : Version) (b : Bytes) :
    (forall r, b.length < payloadLimit ->
      (Codec.receipt.decode.exact b = .ok r <->
        exists e, Codec.receipt.encode r = .ok e ∧
          (b = e ∨ r.type = 0 ∧ b = Item.ofString (0 :: e)))) ∧
    (forall r, Codec.receipt.decode.exact b = .ok r ->
      (Codec.receipt.encode r = .ok b <-> ¬ Item.StartsZero b) ∧
      forall b', Codec.receipt.decode.exact b' = .ok r ->
        (b = b' <-> (Item.StartsZero b <-> Item.StartsZero b'))) ∧
    (forall p, v.decode 0x10 b = .ok p ->
      exists q b', v.decodeRelay 0x10 b = .ok q ∧ v.encode q = .ok (0x10, b) ∧
        v.encode p = .ok (0x10, b') ∧
        (b' = b <-> forall r, r ∈ v.receiptItems b -> ¬ Item.StartsZero r.bytes)) := by
  refine ⟨?_, ?_, ?_⟩
  · intro r hlength
    exact Codec.receipt_exact_eq_ok_iff hlength
  · intro r h
    constructor
    · exact Codec.receipt_encode_eq_ok_iff h
    · intro b' h'
      exact Codec.startsZero_iff_of_exact h h'
  · intro p h
    rcases exists_decodeRelay_of_decode (r := .receipts) h with ⟨raws, hrelay⟩
    rcases encode_of_decode_receipts h with ⟨b', hencode, hkept⟩
    exact ⟨_, b', hrelay, encode_of_decodeRelay hrelay, hencode, hkept⟩

/-- A receipt of type zero in an envelope: failed, without gas, bloom bits or logs. -/
def envelopedReceipt : Bytes :=
  [0xB9, 1, 0x0A, 0, 0xF9, 1, 6, 0x80, 0x80, 0xB9, 1, 0] ++ List.replicate 256 0 ++ [0xC0]

set_option maxRecDepth 4000 in
theorem string_envelopedReceipt :
    Item.string envelopedReceipt = .ok (0 :: envelopedReceipt.drop 4) [] := rfl

theorem envelopedReceipt_startsZero : Item.StartsZero envelopedReceipt :=
  ⟨_, string_envelopedReceipt⟩

set_option maxRecDepth 4000 in
theorem exact_envelopedReceipt :
    Codec.receipt.decode.exact envelopedReceipt =
      .ok ⟨0, .failed, ⟨0, by decide⟩, default, []⟩ := rfl

theorem receipt_not_canonical :
    ¬ forall b r, Codec.receipt.decode.exact b = .ok r -> Codec.receipt.encode r = .ok b := by
  intro h
  have hencode := h _ _ exact_envelopedReceipt
  exact (Codec.receipt_encode_eq_ok_iff exact_envelopedReceipt).mp hencode
    envelopedReceipt_startsZero

set_option maxRecDepth 4000 in
/-- The envelope is lost on the way, whether the receipt comes alone or in a message. -/
theorem receipts_resent_envelopedReceipt :
    (Codec.receipt.decode.exact envelopedReceipt =
        .ok ⟨0, .failed, ⟨0, by decide⟩, default, []⟩ ∧
      exists e, Codec.receipt.encode ⟨0, .failed, ⟨0, by decide⟩, default, []⟩ = .ok e ∧
        envelopedReceipt ≠ e ∧ envelopedReceipt = Item.ofString (0 :: e)) ∧
    (eth65.decode 0x10 ([0xF9, 1, 0x10] ++ ([0xF9, 1, 0x0D] ++ envelopedReceipt)) =
        .ok ⟨none, ⟨.receipts, [[⟨0, .failed, ⟨0, by decide⟩, default, []⟩]]⟩⟩ ∧
      exists b',
        eth65.encode ⟨none, ⟨.receipts, [[⟨0, .failed, ⟨0, by decide⟩, default, []⟩]]⟩⟩ =
          .ok (0x10, b') ∧
        b' ≠ [0xF9, 1, 0x10] ++ ([0xF9, 1, 0x0D] ++ envelopedReceipt)) := by
  have hread : eth65.decode 0x10 ([0xF9, 1, 0x10] ++ ([0xF9, 1, 0x0D] ++ envelopedReceipt)) =
      .ok ⟨none, ⟨.receipts, [[⟨0, .failed, ⟨0, by decide⟩, default, []⟩]]⟩⟩ := by
    rfl
  have hblock : Item.IsListOf [envelopedReceipt] ([0xF9, 1, 0x0D] ++ envelopedReceipt) :=
    Item.isListOf_singleton (Item.isWhole_of_string string_envelopedReceipt) rfl
  have hbody : Item.IsListOf [[0xF9, 1, 0x0D] ++ envelopedReceipt]
      ([0xF9, 1, 0x10] ++ ([0xF9, 1, 0x0D] ++ envelopedReceipt)) :=
    Item.isListOf_singleton hblock.isWhole rfl
  constructor
  · rcases receipts_resent eth65 envelopedReceipt with ⟨hforms, hkept, _⟩
    have hchanged (h : Codec.receipt.encode _ = .ok envelopedReceipt) : False :=
      (hkept _ exact_envelopedReceipt).1.mp h envelopedReceipt_startsZero
    refine ⟨exact_envelopedReceipt, ?_⟩
    rcases (hforms _ (by decide)).mp exact_envelopedReceipt with
      ⟨e, he, hsame | ⟨_, henvelope⟩⟩
    · rw [← hsame] at he
      exact (hchanged he).elim
    · refine ⟨e, he, ?_, henvelope⟩
      intro hsame
      rw [← hsame] at he
      exact hchanged he
  · rcases (receipts_resent eth65 _).2.2 _ hread with ⟨_, b', _, _, hencode, hsame⟩
    refine ⟨hread, b', hencode, ?_⟩
    intro heq
    have hmem := mem_receiptItems (v := eth65) (f := .bare) rfl .bare hbody.isWhole hbody
      (List.mem_singleton.mpr rfl) hblock (List.mem_singleton.mpr rfl)
    exact hsame.mp heq _ hmem envelopedReceipt_startsZero

end Version
end ChainWire
