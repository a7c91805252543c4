import ChainWire.Proofs.RecordType

/-!
# Records with too few or too many fields

What is read of a record whose fields were counted wrong, by itself and where
it stands inside something else: around the body of a message, inside the
envelope of a receipt.  The header of a block is read with and without its last
field, and then says which of both it was.
-/

namespace ChainWire

open Header (payloadLimit)

/-!
## The items of a record
-/

theorem Item.IsListOf.unique {parts parts' : List Bytes} {e : Bytes} (h : IsListOf parts e)
    (h' : IsListOf parts' e) : parts = parts' := by
  have hread := (Codec.list_raw_decode h).symm.trans (Codec.list_raw_decode h')
  have hraw : parts.map RawItem.mk = parts'.map RawItem.mk := by
    injection hread
  exact List.map_injective_iff.mpr (fun _ _ => RawItem.mk.inj) hraw

/-- A byte string no longer than a bloom filter takes a header of nine bytes at most. -/
theorem Item.length_ofString_le {payload : Bytes} (h : payload.length <= 256) :
    (ofString payload).length <= 265 := by
  rw [← wrap_false]
  refine Nat.le_trans (length_wrap_le (Nat.lt_of_le_of_lt h ?_)) (Nat.add_le_add_right h 9)
  decide

theorem Item.length_flatten_le {parts : List Bytes} {longest : Nat}
    (h : forall e, e ∈ parts -> e.length <= longest) :
    parts.flatten.length <= parts.length * longest := by
  induction parts with
  | nil =>
      exact Nat.zero_le _
  | cons e rest ih =>
      have hrest := ih fun e he => h e (List.mem_cons_of_mem _ he)
      have he := h e List.mem_cons_self
      rw [List.flatten_cons, List.length_append, List.length_cons, Nat.add_one_mul]
      omega

namespace RecordType

section Items

variable {r : RecordType} {x : r.Carrier} {parts : List Bytes}

theorem exists_parts (hx : r.WellFormed x) {e : Bytes} (he : r.codec.encode x = .ok e)
    (hlength : e.length < payloadLimit) :
    exists parts, r.fields x = parts.map .ok ∧ Item.IsListOf parts e := by
  have hcounts := r.codec_counts x hx
  rcases hcounts.encode_eq_ok.mp he with ⟨parts, hparts, rfl⟩
  have hlimit : parts.flatten.length < payloadLimit := by
    rw [← Item.wrap_true] at hlength
    exact Item.isWhole_of_length_lt hlength
  exact ⟨parts, hparts, hcounts.isListOf hparts hlimit⟩

theorem length_parts (hx : r.WellFormed x) (hparts : r.fields x = parts.map .ok) :
    r.fewest <= parts.length ∧ parts.length <= r.most := by
  have hcounts := r.codec_counts x hx
  have hlength : (r.fields x).length = parts.length := by
    rw [hparts, List.length_map]
  rw [← hlength]
  exact ⟨hcounts.fewest_le, hcounts.le_most⟩

theorem fewest_eq_most (hr : r ≠ .blockHeader) : r.fewest = r.most := by
  cases r with
  | blockHeader =>
      exact absurd rfl hr
  | _ =>
      rfl

end Items
end RecordType

/-!
## Records inside other items
-/

namespace Decoder

theorem field_map {α β : Type} (item : String) (f : α -> β) (d : Decoder α) :
    field item (d.map f) = (field item d).map f := by
  funext b
  cases b <;> rfl

theorem record_map {α β : Type} (item : String) (f : α -> β) (d : Decoder α) :
    record item (d.map f) = (record item d).map f := by
  funext b
  show (Item.payload b).andThen _ = ((Item.payload b).andThen _).map f
  cases Item.payload b with
  | fail e rest =>
      rfl
  | ok payload rest =>
      simp only [Read.andThen_ok, map]
      cases d payload with
      | fail e left =>
          rfl
      | ok x left =>
          simp only [Read.map_ok]
          cases noMoreFields item left <;> rfl

end Decoder

theorem Framing.decode_withId (k : Kind) :
    withId.decode k =
      (RecordType.withId k).codec.decode.map fun p => ⟨some p.1, ⟨k, p.2⟩⟩ := by
  show Decoder.record k.name _ = _
  rw [RecordType.codec, Codec.record, ← Decoder.record_map]
  congr 1
  funext b
  show (Decoder.field k.name Uint.decode b).andThen _ =
    ((Decoder.field k.name Uint.decode b).andThen _).map _
  cases Decoder.field k.name Uint.decode b with
  | fail e rest =>
      rfl
  | ok id rest =>
      simp only [Read.andThen_ok]
      rw [Message.decode, Decoder.field_map]
      show ((Decoder.field k.name k.codec.decode rest).map _).map _ =
        ((Decoder.field k.name k.codec.decode rest).map _).map _
      rw [Read.map_map, Read.map_map]

theorem Version.decodeAs_miscounted {v : Version} {id : RequestId} {m : Message} {code : Nat}
    {e : Bytes} (hm : m.WellFormed) (he : v.encode ⟨some id, m⟩ = .ok (code, e)) :
    exists body, m.encode = .ok body ∧ e = Item.ofPayload (id.encode ++ body) ∧
      forall payload, Miscounted 2 2 [id.encode, body] payload ->
        payload.length < payloadLimit ->
          v.decodeAs m.kind (Item.ofPayload payload) =
            .error (.fieldCountMismatch m.kind.name) := by
  rcases Version.encode_withId_eq_ok_iff.mp he with ⟨hframing, _, body, hbody, rfl⟩
  refine ⟨body, hbody, rfl, ?_⟩
  intro payload hpayload hlimit
  have hfields : (RecordType.withId m.kind).fields (id, m.body) = [id.encode, body].map .ok := by
    show [Except.ok id.encode, m.kind.codec.encode m.body] = _
    rw [show m.kind.codec.encode m.body = .ok body from hbody]
    rfl
  have hrefused := ((RecordType.withId m.kind).codec_counts (id, m.body) hm).refuses hfields
    hpayload hlimit []
  rw [List.append_nil] at hrefused
  rw [Version.decodeAs, hframing]
  show (Framing.withId.decode m.kind).exact _ = _
  rw [Framing.decode_withId, Decoder.exact_map, Decoder.exact, hrefused]
  rfl

theorem Codec.receipt_decode_fault {type : UInt8} {payload : Bytes} {fault : DecodeFault}
    (hlimit : payload.length < payloadLimit)
    (h : forall type, (receiptRecord type).decode (Item.ofPayload payload) = .fail fault []) :
    (forall rest, receipt.decode (Item.ofPayload payload ++ rest) = .fail fault rest) ∧
    (TypedEnvelope.isReserved type = false ->
      (type :: Item.ofPayload payload).length < payloadLimit -> forall rest,
        receipt.decode (Item.ofString (type :: Item.ofPayload payload) ++ rest) =
          .fail fault rest) := by
  constructor
  · intro rest
    rw [← Item.wrap_true, receipt_itemWise.append (Item.isWhole_wrap hlimit)]
    show ((Header.peek _).andThen _).extend rest = _
    rw [Header.peek_wrap hlimit, Read.andThen_ok, if_pos rfl, Item.wrap_true, h]
    rfl
  · intro htype hlength rest
    rw [← Item.wrap_false, receipt_itemWise.append (Item.isWhole_wrap hlength)]
    show ((Header.peek _).andThen _).extend rest = _
    rw [Header.peek_wrap hlength, Read.andThen_ok, if_neg Bool.false_ne_true, Item.wrap_false,
      TypedEnvelope.decode_ofString htype hlength, Read.andThen_ok]
    dsimp only
    rw [Decoder.exact, h]
    rfl

/-!
## Headers with and without a base fee
-/

namespace RecordType

variable {h : BlockHeader} {parts : List Bytes}

theorem fields_blockHeader (h : BlockHeader) :
    fields .blockHeader h = fields .blockHeader { h with baseFee := none } ++
      h.baseFee.toList.map (Codec.uint 32).encode := rfl

theorem length_fields_blockHeader (h : BlockHeader) :
    (fields .blockHeader h).length = if h.baseFee.isSome then 16 else 15 := by
  rw [fields_blockHeader]
  cases h.baseFee <;> rfl

theorem fields_blockHeader_take (hparts : fields .blockHeader h = parts.map .ok) :
    fields .blockHeader { h with baseFee := none } = (parts.take 15).map .ok := by
  rw [List.map_take, ← hparts]
  rfl

theorem blockHeader_decode (hparts : fields .blockHeader h = parts.map .ok)
    (hlimit : parts.flatten.length < payloadLimit) (rest : Bytes) :
    Codec.blockHeader.decode (Item.ofPayload parts.flatten ++ rest) = .ok h rest := by
  have hencode := (Codec.blockHeader_counts h).encode_eq_ok.mpr ⟨parts, hparts, rfl⟩
  exact Codec.blockHeader_strict.decode_eq_ok_iff.mpr
    ⟨_, hencode, (Codec.blockHeader_counts h).isListOf hparts hlimit |>.isWhole, rfl⟩

/-- Fifteen fields are a header without a base fee, and with any base fee there are sixteen. -/
theorem blockHeader_decode_fee (hparts : fields .blockHeader h = parts.map .ok)
    (rest : Bytes) :
    ((parts.take 15).flatten.length < payloadLimit ->
      Codec.blockHeader.decode (Item.ofPayload (parts.take 15).flatten ++ rest) =
        .ok { h with baseFee := none } rest) ∧
    (forall fee : Uint 32, ((parts.take 15).flatten ++ fee.encode).length < payloadLimit ->
      Codec.blockHeader.decode
          (Item.ofPayload ((parts.take 15).flatten ++ fee.encode) ++ rest) =
        .ok { h with baseFee := some fee } rest) := by
  have hrequired := fields_blockHeader_take hparts
  constructor
  · intro hlimit
    exact blockHeader_decode hrequired hlimit rest
  · intro fee hlimit
    have hall : fields .blockHeader { h with baseFee := some fee } =
        (parts.take 15 ++ [fee.encode]).map .ok := by
      rw [fields_blockHeader, List.map_append, ← hrequired]
      rfl
    have hflatten : (parts.take 15 ++ [fee.encode]).flatten =
        (parts.take 15).flatten ++ fee.encode := by
      simp
    rw [← hflatten] at hlimit ⊢
    exact blockHeader_decode hall hlimit rest

theorem length_of_blockHeader_decode {e : Bytes} (he : Item.IsListOf parts e)
    (hread : Codec.blockHeader.decode e = .ok h []) :
    parts.length = if h.baseFee.isSome then 16 else 15 := by
  have hcounts := Codec.blockHeader_counts h
  -- What was read is written again as it came, and a list has one way to be cut into items.
  have hencode := Codec.blockHeader_strict.canonical e h hread
  rcases hcounts.encode_eq_ok.mp hencode with ⟨parts', hparts', rfl⟩
  have hlimit : parts'.flatten.length < payloadLimit := by
    have hwhole := he.isWhole
    rw [← Item.wrap_true] at hwhole
    exact Item.isWhole_wrap_iff.mp hwhole
  rw [he.unique (hcounts.isListOf hparts' hlimit), ← length_fields_blockHeader, hparts',
    List.length_map]

theorem exists_parts_blockHeader (h : BlockHeader) (hextra : h.extraData.length <= 256) :
    exists parts : List Bytes, fields .blockHeader h = parts.map .ok ∧
      forall e, e ∈ parts -> e.length <= 265 := by
  have hoctets : forall {width : Nat} (x : Octets width), width <= 256 ->
      x.encode.length <= 265 := by
    intro width x hwidth
    exact Item.length_ofString_le (Nat.le_trans (Nat.le_of_eq x.length_eq) hwidth)
  have huint : forall {width : Nat} (n : Uint width), width <= 256 ->
      n.encode.length <= 265 := by
    intro width n hwidth
    exact Item.length_ofString_le (Nat.le_trans n.length_trimmed_le hwidth)
  refine ⟨[h.parentHash.encode, h.uncleHash.encode, h.coinbase.encode, h.stateRoot.encode,
    h.transactionsRoot.encode, h.receiptsRoot.encode, h.logsBloom.encode, h.difficulty.encode,
    h.number.encode, h.gasLimit.encode, h.gasUsed.encode, h.timestamp.encode,
    Item.ofString h.extraData, h.mixHash.encode, h.nonce.encode] ++
    h.baseFee.toList.map Uint.encode, ?_, ?_⟩
  · rw [List.map_append, List.map_map]
    rfl
  · simp [or_imp, forall_and, hoctets, huint, Item.length_ofString_le hextra]

/--
Every record that can be read travels as the list of its fields.  With fields
missing at the end, or with any bytes behind the last field there can be, it is
refused under its own name, also where it is the record around a message or the
inside of a receipt.  A header of a block has fifteen fields or sixteen, and
their number alone says whether there is a base fee, which may be zero.
-/
theorem counts_fields_exactly :
    (forall (r : RecordType) (x : r.Carrier) (e : Bytes), r.WellFormed x ->
      r.codec.encode x = .ok e -> e.length < payloadLimit ->
        exists parts, r.fields x = parts.map .ok ∧ Item.IsListOf parts e ∧
          r.fewest <= parts.length ∧ parts.length <= r.most ∧
          (r ≠ .blockHeader -> r.fewest = r.most) ∧
          forall payload, Miscounted r.fewest r.most parts payload ->
            payload.length < payloadLimit -> forall rest,
              r.codec.decode (Item.ofPayload payload ++ rest) =
                .fail (.fieldCountMismatch r.name) rest) ∧
    (forall (v : Version) (id : RequestId) (m : Message) (code : Nat) (e : Bytes),
      m.WellFormed -> v.encode ⟨some id, m⟩ = .ok (code, e) ->
        exists body, m.encode = .ok body ∧ e = Item.ofPayload (id.encode ++ body) ∧
          forall payload, Miscounted 2 2 [id.encode, body] payload ->
            payload.length < payloadLimit ->
              v.decodeAs m.kind (Item.ofPayload payload) =
                .error (.fieldCountMismatch m.kind.name)) ∧
    (forall (x : Receipt) (inner : Bytes), (Codec.receiptRecord x.type).encode x = .ok inner ->
      inner.length < payloadLimit ->
        exists parts, Item.IsListOf parts inner ∧
          forall payload, Miscounted 4 4 parts payload -> payload.length < payloadLimit ->
            (forall rest, Codec.receipt.decode (Item.ofPayload payload ++ rest) =
              .fail (.fieldCountMismatch "receipt") rest) ∧
            (TypedEnvelope.isReserved x.type = false ->
              (x.type :: Item.ofPayload payload).length < payloadLimit -> forall rest,
                Codec.receipt.decode
                    (Item.ofString (x.type :: Item.ofPayload payload) ++ rest) =
                  .fail (.fieldCountMismatch "receipt") rest)) ∧
    (forall (h : BlockHeader) (parts : List Bytes), fields .blockHeader h = parts.map .ok ->
      forall rest,
        ((parts.take 15).flatten.length < payloadLimit ->
          Codec.blockHeader.decode (Item.ofPayload (parts.take 15).flatten ++ rest) =
            .ok { h with baseFee := none } rest) ∧
        (forall fee : Uint 32, ((parts.take 15).flatten ++ fee.encode).length < payloadLimit ->
          Codec.blockHeader.decode
              (Item.ofPayload ((parts.take 15).flatten ++ fee.encode) ++ rest) =
            .ok { h with baseFee := some fee } rest)) ∧
    (forall (h : BlockHeader) (parts : List Bytes) (e : Bytes), Item.IsListOf parts e ->
      Codec.blockHeader.decode e = .ok h [] ->
        parts.length = if h.baseFee.isSome then 16 else 15) := by
  refine ⟨?_, ?_, ?_, ?_, ?_⟩
  · intro r x e hx he hlength
    rcases exists_parts hx he hlength with ⟨parts, hparts, hlist⟩
    have hbounds := length_parts hx hparts
    refine ⟨parts, hparts, hlist, hbounds.1, hbounds.2, fewest_eq_most, ?_⟩
    intro payload hpayload hlimit rest
    exact (r.codec_counts x hx).refuses hparts hpayload hlimit rest
  · intro v id m code e hm he
    exact Version.decodeAs_miscounted hm he
  · intro x inner hinner hlength
    have hrecord := exists_parts (r := .receipt x.type) (x := x) trivial hinner hlength
    rcases hrecord with ⟨parts, hparts, hlist⟩
    refine ⟨parts, hlist, ?_⟩
    intro payload hpayload hlimit
    apply Codec.receipt_decode_fault hlimit
    intro type
    have hrefused := (Codec.receiptRecord_counts type x).refuses hparts hpayload hlimit []
    rwa [List.append_nil] at hrefused
  · intro h parts hparts rest
    exact blockHeader_decode_fee hparts rest
  · intro h parts e hlist hread
    exact length_of_blockHeader_decode hlist hread

/--
An empty body without its last field and with a byte behind it, unread bodies
behind a request id, a receipt without any field, and a header of zeros with and
without a base fee of zero.
-/
theorem counts_fields_exactly_zeros :
    (Codec.blockBody.encode ⟨[], []⟩ = .ok [0xC2, 0xC0, 0xC0] ∧
      Codec.blockBody.decode [0xC1, 0xC0] = .fail (.fieldCountMismatch "block body") [] ∧
      Codec.blockBody.decode [0xC3, 0xC0, 0xC0, 0x05, 0x07] =
        .fail (.fieldCountMismatch "block body") [0x07]) ∧
    (Version.eth66.encode ⟨some ⟨7, by decide⟩, ⟨.blockBodiesRaw, [⟨[0xC1, 0x81]⟩]⟩⟩ =
        .ok (0x06, [0xC4, 0x07, 0xC2, 0xC1, 0x81]) ∧
      Version.eth66.decodeAs .blockBodiesRaw [0xC5, 0x07, 0xC2, 0xC1, 0x81, 0xB8] =
        .error (.fieldCountMismatch "BlockBodiesRaw")) ∧
    (Codec.receipt.decode [0xC0, 0x07] = .fail (.fieldCountMismatch "receipt") [0x07] ∧
      Codec.receipt.decode [0x82, 0x01, 0xC0] = .fail (.fieldCountMismatch "receipt") []) ∧
    (exists parts : List Bytes, fields .blockHeader default = parts.map .ok ∧
      parts.length = 15 ∧
      Codec.blockHeader.decode (Item.ofPayload parts.flatten) = .ok default [] ∧
      Codec.blockHeader.decode (Item.ofPayload (parts.flatten ++ [0x80])) =
        .ok { (default : BlockHeader) with baseFee := some .zero } []) := by
  rcases counts_fields_exactly with ⟨hrecords, henvelopes, hreceipts, hheaders, hlengths⟩
  have hzero : (Uint.zero : Uint 32).encode = [0x80] := by
    show Item.ofString (BigEndian.encode 0) = _
    rw [BigEndian.encode_zero]
    rfl
  refine ⟨?_, ?_, ?_, ?_⟩
  · have hencode : Codec.blockBody.encode ⟨[], []⟩ = .ok [0xC2, 0xC0, 0xC0] := rfl
    rcases hrecords .blockBody ⟨[], []⟩ _ trivial hencode (by decide) with
      ⟨parts, hparts, _, _, _, _, hrefused⟩
    have hempty : [[0xC0], [0xC0]] = parts :=
      List.map_injective_iff.mpr (fun _ _ => Except.ok.inj) hparts
    subst hempty
    exact ⟨hencode, hrefused _ (.missing (k := 1) (by decide)) (by decide) [],
      hrefused _ (.beyond rfl (List.cons_ne_nil 0x05 [])) (by decide) [0x07]⟩
  · have hid : (⟨7, by decide⟩ : RequestId).encode = [0x07] :=
      Uint.encode_of_lt _ (by decide) (by decide)
    have hencode :
        Version.eth66.encode ⟨some ⟨7, by decide⟩, ⟨.blockBodiesRaw, [⟨[0xC1, 0x81]⟩]⟩⟩ =
          .ok (0x06, [0xC4, 0x07, 0xC2, 0xC1, 0x81]) :=
      Version.encode_withId_eq_ok_iff.mpr
        ⟨rfl, rfl, [0xC2, 0xC1, 0x81], rfl, by rw [hid]; rfl⟩
    have hitems : Message.WellFormed ⟨.blockBodiesRaw, [⟨[0xC1, 0x81]⟩]⟩ := by
      intro r hr
      rw [List.mem_singleton.mp hr]
      rfl
    rcases henvelopes .eth66 _ _ _ _ hitems hencode with ⟨body, hbody, _, hrefused⟩
    have hunread : [0xC2, 0xC1, 0x81] = body := Except.ok.inj hbody
    subst hunread
    rw [hid] at hrefused
    exact ⟨hencode, hrefused _ (.beyond rfl (List.cons_ne_nil 0xB8 [])) (by decide)⟩
  · let receipt : Receipt := ⟨1, .failed, .zero, .zero, []⟩
    let parts : List Bytes :=
      [[0x80], receipt.cumulativeGasUsed.encode, receipt.bloom.encode, [0xC0]]
    have hinner : (Codec.receiptRecord 1).encode receipt = .ok (Item.ofPayload parts.flatten) :=
      (Codec.receiptRecord_counts 1 receipt).encode_eq_ok.mpr ⟨parts, rfl, rfl⟩
    have hgas : receipt.cumulativeGasUsed.encode.length <= 265 :=
      Item.length_ofString_le (Nat.le_trans (Uint.length_trimmed_le _) (by decide))
    have hbloom : receipt.bloom.encode.length <= 265 :=
      Item.length_ofString_le (Nat.le_of_eq (Octets.length_eq _))
    have hpayload : parts.flatten.length <= 4 * 265 :=
      Item.length_flatten_le (by simp [parts, hgas, hbloom])
    have hlimit : (Item.ofPayload parts.flatten).length < payloadLimit := by
      rw [← Item.wrap_true]
      refine Nat.lt_of_le_of_lt (Item.length_wrap_le (Nat.lt_of_le_of_lt hpayload ?_))
        (Nat.lt_of_le_of_lt (Nat.add_le_add_right hpayload 9) ?_)
      all_goals decide
    rcases hreceipts receipt _ hinner hlimit with ⟨_, _, hrefused⟩
    have hnone := hrefused [] (.missing (k := 0) (by decide)) (by decide)
    exact ⟨hnone.1 [0x07], hnone.2 rfl (by decide) []⟩
  · rcases exists_parts_blockHeader default (Nat.zero_le _) with ⟨parts, hparts, hshort⟩
    have hcount : parts.length = 15 := by
      have hlength := length_fields_blockHeader default
      rw [hparts, List.length_map] at hlength
      exact hlength
    have hlength : parts.flatten.length <= 15 * 265 := by
      rw [← hcount]
      exact Item.length_flatten_le hshort
    have hread := hheaders default parts hparts []
    rw [List.take_of_length_le (Nat.le_of_eq hcount), List.append_nil] at hread
    have hfee := hread.2 .zero
    rw [hzero, List.length_append, List.append_nil] at hfee
    have hlimit : parts.flatten.length < payloadLimit := Nat.lt_of_le_of_lt hlength (by decide)
    have hlist := (Codec.blockHeader_counts default).isListOf hparts hlimit
    exact ⟨parts, hparts, hlengths default parts _ hlist (hread.1 hlimit), hread.1 hlimit,
      hfee (Nat.lt_of_le_of_lt (Nat.add_le_add_right hlength 1) (by decide))⟩

end RecordType
end ChainWire
