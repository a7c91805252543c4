import ChainWire.Proofs.ItemType

/-!
# Raw items and the lists that they make

A raw item is exactly one item however it was built, though nobody has looked
inside.  That is all a list needs: raw items spliced one after another are told
apart again by their headers, and the raw items of a received list are its
payload, cut at the ends of the items.
-/

namespace ChainWire

open Header (payloadLimit)

namespace RawItem

theorem ofBytes_append {e : Bytes} (he : Item.IsWhole e) (rest : Bytes) :
    ofBytes (e ++ rest) = if rest = [] then .ok ⟨e⟩ else .error (.trailingData rest.length) := by
  unfold ofBytes
  rw [he.span_append rest]
  cases rest with
  | nil =>
      simp [bind, Except.bind, pure, Except.pure]
  | cons x rest =>
      simp [bind, Except.bind, throw, throwThe, MonadExceptOf.throw]

theorem ofBytes_eq_exact (b : Bytes) : ofBytes b = decode.exact b := by
  cases hspan : Item.span b with
  | error e =>
      simp [ofBytes, Decoder.exact, decode, hspan, bind, Except.bind]
  | ok n =>
      rcases Item.exists_isWhole_of_span hspan with ⟨e, rest, hwhole, rfl, _⟩
      rw [ofBytes_append hwhole, Decoder.exact, decode_append hwhole]
      cases rest <;> rfl

theorem wellFormed_of_ofBytes {b : Bytes} {r : RawItem} (h : ofBytes b = .ok r) : r.WellFormed :=
  (wellFormed_iff_isWhole r).mpr (isWhole_of_ofBytes h)

theorem wellFormed_of_decode {b rest : Bytes} {r : RawItem} (h : decode b = .ok r rest) :
    r.WellFormed :=
  (wellFormed_iff_isWhole r).mpr (eq_append_of_decode h).1

end RawItem

namespace Codec

theorem list_raw_decode_append {rs : List RawItem} (hrs : forall r, r ∈ rs -> r.WellFormed)
    (hlength : (rs.flatMap RawItem.bytes).length < payloadLimit) (rest : Bytes) :
    (list raw).decode (Item.ofPayload (rs.flatMap RawItem.bytes) ++ rest) = .ok rs rest := by
  refine (list_decode_eq_ok_iff RawItem.decode_itemWise).mpr ⟨_, rfl, hlength, ?_⟩
  apply Decoder.Run.of_flatMap
  intro r hr left
  exact RawItem.decode_append ((RawItem.wellFormed_iff_isWhole r).mp (hrs r hr)) left

theorem payload_of_list_raw {b rest : Bytes} {rs : List RawItem}
    (h : (list raw).decode b = .ok rs rest) :
    Item.payload b = .ok (rs.flatMap RawItem.bytes) rest ∧ forall r, r ∈ rs -> r.WellFormed := by
  rcases (list_decode_eq_ok_iff RawItem.decode_itemWise).mp h with ⟨payload, rfl, hlimit, hrun⟩
  have hitems : payload = rs.flatMap RawItem.bytes ∧ forall r, r ∈ rs -> r.WellFormed := by
    apply hrun.eq_flatMap
    intro b rest r hread
    exact ⟨(RawItem.eq_append_of_decode hread).2, RawItem.wellFormed_of_decode hread⟩
  rw [← hitems.1]
  exact ⟨Item.payload_ofPayload_append hlimit rest, hitems.2⟩

end Codec

namespace RawItem

/--
Checking bytes to be a raw item is reading one that is all of them, and a raw
item spans its bytes in whichever way it was built.  A list of raw items is read
back item by item, and the items of a list that was read make up its payload.
-/
theorem spans_and_partitions :
    (forall b : Bytes, ofBytes b = decode.exact b) ∧
    (forall (b : Bytes) (r : RawItem), ofBytes b = .ok r ->
      Item.span r.bytes = .ok r.bytes.length) ∧
    (forall (b rest : Bytes) (r : RawItem), decode b = .ok r rest ->
      Item.span r.bytes = .ok r.bytes.length) ∧
    (forall (t : ItemType) (x : t.Carrier) (r : RawItem),
      (forall s, s ∈ t.rawItems x -> s.Built) -> ofTyped t.codec x = .ok r ->
        r.bytes.length < payloadLimit -> Item.span r.bytes = .ok r.bytes.length) ∧
    (forall rs : List RawItem, (forall r, r ∈ rs -> r.Built) ->
      (rs.flatMap bytes).length < payloadLimit ->
        exists e, (Codec.list .raw).encode rs = .ok e ∧
          (Codec.list .raw).decode.exact e = .ok rs ∧
          forall rest, (Codec.list .raw).decode (e ++ rest) = .ok rs rest) ∧
    (forall (b rest : Bytes) (rs : List RawItem), (Codec.list .raw).decode b = .ok rs rest ->
      Item.payload b = .ok (rs.flatMap bytes) rest) := by
  refine ⟨ofBytes_eq_exact, fun _ _ => wellFormed_of_ofBytes, fun _ _ _ => wellFormed_of_decode,
    ?_, ?_, ?_⟩
  · intro t x r hitems h hlength
    exact (Built.ofTyped hitems h).wellFormed hlength
  · intro rs hbuilt hlength
    have hrs : forall r, r ∈ rs -> r.WellFormed := by
      intro r hr
      exact (hbuilt r hr).wellFormed (Nat.lt_of_le_of_lt (length_le_of_mem hr) hlength)
    have hread := Codec.list_raw_decode_append hrs hlength
    refine ⟨_, Codec.list_raw_encode rs, ?_, hread⟩
    rw [Decoder.exact_eq_ok_iff]
    simpa using hread []
  · intro b rest rs h
    exact (Codec.payload_of_list_raw h).1

/-- A list whose inside ends too early, in front of two flags: no one looks inside. -/
theorem spans_and_partitions_unreadableInside :
    (ofBytes [0xC1, 0x81] = .ok ⟨[0xC1, 0x81]⟩ ∧ Item.span [0xC1, 0x81] = .ok 2) ∧
    (decode [0xC1, 0x81, 0x05] = .ok ⟨[0xC1, 0x81]⟩ [0x05] ∧
      Item.span [0xC1, 0x81] = .ok 2) ∧
    (ofTyped (ItemType.list .bool).codec [true, false] = .ok ⟨[0xC2, 0x01, 0x80]⟩ ∧
      3 < payloadLimit ∧ Item.span [0xC2, 0x01, 0x80] = .ok 3) ∧
    (Built ⟨[0xC1, 0x81]⟩ ∧ Built ⟨[0xC2, 0x01, 0x80]⟩ ∧ 5 < payloadLimit ∧
      exists e, (Codec.list .raw).encode [⟨[0xC1, 0x81]⟩, ⟨[0xC2, 0x01, 0x80]⟩] = .ok e ∧
        (Codec.list .raw).decode.exact e = .ok [⟨[0xC1, 0x81]⟩, ⟨[0xC2, 0x01, 0x80]⟩]) ∧
    ((Codec.list .raw).decode [0xC2, 0x81, 0x80, 0x05] = .ok [⟨[0x81, 0x80]⟩] [0x05] ∧
      Item.payload [0xC2, 0x81, 0x80, 0x05] = .ok [0x81, 0x80] [0x05]) := by
  have hread : ofBytes [0xC1, 0x81] = .ok ⟨[0xC1, 0x81]⟩ := rfl
  have htaken : decode [0xC1, 0x81, 0x05] = .ok ⟨[0xC1, 0x81]⟩ [0x05] := rfl
  have hflags : forall s, s ∈ (ItemType.list .bool).rawItems [true, false] -> s.Built := by
    intro s hs
    cases hs
  have hwritten :
      ofTyped (ItemType.list .bool).codec [true, false] = .ok ⟨[0xC2, 0x01, 0x80]⟩ := rfl
  have hlist : (Codec.list .raw).decode [0xC2, 0x81, 0x80, 0x05] =
      .ok [⟨[0x81, 0x80]⟩] [0x05] := rfl
  have hbuilt : forall r, r ∈ [RawItem.mk [0xC1, 0x81], ⟨[0xC2, 0x01, 0x80]⟩] -> r.Built := by
    simp only [List.forall_mem_cons, List.not_mem_nil, false_implies, implies_true, and_true]
    exact ⟨.ofBytes hread, .ofTyped hflags hwritten⟩
  rcases spans_and_partitions with ⟨_, hbytes, hdecode, htyped, hsplice, hpayload⟩
  refine ⟨⟨hread, hbytes _ _ hread⟩, ⟨htaken, hdecode _ _ _ htaken⟩, ⟨hwritten, by decide, ?_⟩,
    ⟨.ofBytes hread, .ofTyped hflags hwritten, by decide, ?_⟩, hlist, hpayload _ _ _ hlist⟩
  · exact htyped _ _ _ hflags hwritten (by decide)
  · rcases hsplice _ hbuilt (by decide) with ⟨e, he, hexact, _⟩
    exact ⟨e, he, hexact⟩

end RawItem
end ChainWire
