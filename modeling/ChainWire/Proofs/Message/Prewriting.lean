import ChainWire.Proofs.Message.Relay

/-!
# Writing in advance

The items of a response can be written one by one and kept, and the response
can be put together later from what was kept.  The outcome is the one that
writing the response at once has: the same bytes, or the fault of the first
item that cannot be written.
-/

namespace ChainWire

/-!
## Lists

Kept items are spliced as they are, and so are the items that a list has just
written.
-/

namespace RawItem

variable {α : Type} {c : Codec α} {x : α}

theorem ofTyped_eq_ok_iff {r : RawItem} : ofTyped c x = .ok r <-> c.encode x = .ok r.bytes := by
  unfold ofTyped
  rw [Outcome.map_eq_ok_iff]
  constructor
  · rintro ⟨e, he, rfl⟩
    exact he
  · intro h
    exact ⟨r.bytes, h, rfl⟩

theorem ofTyped_eq_error_iff {fault : EncodeFault} :
    ofTyped c x = .error fault <-> c.encode x = .error fault := by
  unfold ofTyped
  cases c.encode x <;> simp [Except.map]

end RawItem

namespace Codec

variable {α : Type} {c : Codec α}

theorem encodeAll_cons_ok {x : α} {e : Bytes} (hx : c.encode x = .ok e) (xs : List α) :
    c.encodeAll (x :: xs) = (c.encodeAll xs).map (fun tail => e ++ tail) := by
  unfold encodeAll
  rw [Outcome.mapM_cons_ok hx]
  cases xs.mapM c.encode <;> rfl

theorem encodeAll_raw (raws : List RawItem) :
    raw.encodeAll raws = .ok (raws.flatMap RawItem.bytes) := by
  induction raws with
  | nil =>
      rfl
  | cons r raws ih =>
      have hraw : raw.encode r = .ok r.bytes := rfl
      rw [encodeAll_cons_ok hraw, ih]
      rfl

theorem list_raw_encode (raws : List RawItem) :
    (list raw).encode raws = .ok (Item.ofPayload (raws.flatMap RawItem.bytes)) :=
  list_encode_eq_ok_iff.mpr ⟨_, encodeAll_raw raws, rfl⟩

theorem list_encode_eq_raw {xs : List α} {raws : List RawItem}
    (h : List.Forall₂ (fun x r => RawItem.ofTyped c x = .ok r) xs raws) :
    (list c).encode xs = (list raw).encode raws := by
  apply congrArg (fun payload => Except.map Item.ofPayload payload)
  induction h with
  | nil =>
      rfl
  | @cons x r xs raws hx _ ih =>
      have hraw : raw.encode r = .ok r.bytes := rfl
      rw [encodeAll_cons_ok (RawItem.ofTyped_eq_ok_iff.mp hx), encodeAll_cons_ok hraw, ih]

theorem list_encode_eq_error_of_first {before after : List α} {x : α} {fault : EncodeFault}
    (hbefore : forall y, y ∈ before -> exists r, RawItem.ofTyped c y = .ok r)
    (hx : RawItem.ofTyped c x = .error fault) :
    (list c).encode (before ++ x :: after) = .error fault := by
  have hwritten : forall y, y ∈ before -> exists e, c.encode y = .ok e := by
    intro y hy
    rcases hbefore y hy with ⟨r, hr⟩
    exact ⟨r.bytes, RawItem.ofTyped_eq_ok_iff.mp hr⟩
  show (c.encodeAll _).map _ = _
  unfold encodeAll
  rw [Outcome.mapM_eq_error_of_first hwritten (RawItem.ofTyped_eq_error_iff.mp hx)]
  rfl

theorem exists_ofTyped_of_list_encode {xs : List α} {e : Bytes}
    (h : (list c).encode xs = .ok e) :
    exists raws, List.Forall₂ (fun x r => RawItem.ofTyped c x = .ok r) xs raws := by
  rcases list_encode_eq_ok_iff.mp h with ⟨payload, hpayload, _⟩
  rcases Outcome.map_eq_ok_iff.mp hpayload with ⟨parts, hparts, _⟩
  refine ⟨parts.map RawItem.mk, ?_⟩
  rw [List.forall₂_map_right_iff]
  apply (Outcome.mapM_eq_ok_iff.mp hparts).imp
  intro x e hx
  exact RawItem.ofTyped_eq_ok_iff.mpr hx

end Codec

/-!
## Messages
-/

namespace Relayable

/-- The kept items are the items of the response, written in advance. -/
def Prewritten (r : Relayable) (xs : List r.Item) (raws : List RawItem) : Prop :=
  List.Forall₂ (fun x raw => RawItem.ofTyped r.item x = .ok raw) xs raws

variable {r : Relayable}

theorem encode_message (r : Relayable) (xs : List r.Item) :
    (r.message xs).encode = (Codec.list r.item).encode xs := by
  cases r <;> rfl

theorem encode_unread (r : Relayable) (raws : List RawItem) :
    (r.unread raws).encode = (Codec.list .raw).encode raws := by
  cases r <;> rfl

@[simp] theorem kind_message (r : Relayable) (xs : List r.Item) :
    (r.message xs).kind = r.kind := by
  cases r <;> rfl

@[simp] theorem kind_unread (r : Relayable) (raws : List RawItem) :
    (r.unread raws).kind = r.kind.relayed := by
  cases r <;> rfl

theorem Prewritten.encode_eq {xs : List r.Item} {raws : List RawItem}
    (h : r.Prewritten xs raws) : (r.message xs).encode = (r.unread raws).encode := by
  rw [encode_message, encode_unread]
  exact Codec.list_encode_eq_raw h

theorem exists_prewritten {xs : List r.Item} {e : Bytes} (h : (r.message xs).encode = .ok e) :
    exists raws, r.Prewritten xs raws := by
  rw [encode_message] at h
  exact Codec.exists_ofTyped_of_list_encode h

end Relayable

/-!
## Versions
-/

namespace Version

variable {v : Version} {r : Relayable} {id : Option RequestId}

theorem encode_prewritten_iff {xs : List r.Item} {raws : List RawItem}
    (h : r.Prewritten xs raws) (out : Nat × Bytes) :
    v.encode ⟨id, r.message xs⟩ = .ok out <-> v.encode ⟨id, r.unread raws⟩ = .ok out := by
  rcases out with ⟨code, b⟩
  rcases exists_framing v r with ⟨f, hkind, hrelayed⟩
  rw [encode_eq_ok_iff, encode_eq_ok_iff]
  simp only [Packet.kind, r.kind_message, r.kind_unread, hkind, hrelayed, h.encode_eq,
    Kind.code_relayed]

theorem exists_encode_unread_iff {f : Framing} (hframing : v.framing r.kind = some f)
    (raws : List RawItem) :
    (exists out, v.encode ⟨id, r.unread raws⟩ = .ok out) <-> f.Fits id := by
  rcases exists_framing v r with ⟨f', hkind, hrelayed⟩
  have hf : f' = f := Option.some.inj (hkind.symm.trans hframing)
  subst hf
  have hbody : (r.unread raws).encode = .ok (Item.ofPayload (raws.flatMap RawItem.bytes)) := by
    rw [Relayable.encode_unread, Codec.list_raw_encode]
  constructor
  · rintro ⟨⟨code, b⟩, hout⟩
    rcases encode_eq_ok_iff.mp hout with ⟨g, e, hg, _, hlays, _⟩
    rw [Packet.kind, r.kind_unread, hrelayed] at hg
    cases hg
    exact (Framing.fits_iff_exists_lays e).mpr ⟨b, hlays⟩
  · intro hfits
    rcases (Framing.fits_iff_exists_lays _).mp hfits with ⟨b, hlays⟩
    have hkind' : v.framing (Packet.kind ⟨id, r.unread raws⟩) = some f' := by
      rw [Packet.kind, r.kind_unread, hrelayed]
    exact ⟨(_, b), encode_eq_ok_iff.mpr ⟨f', _, hkind', hbody, hlays, rfl⟩⟩

theorem encode_eq_error_of_message {p : Packet} {f : Framing} {fault : EncodeFault}
    (hframing : v.framing p.kind = some f) (hfits : f.Fits p.requestId)
    (h : p.message.encode = .error fault) : v.encode p = .error fault := by
  unfold encode
  rw [hframing]
  dsimp only
  rw [Framing.encode_eq_error_of_message hfits h]
  rfl

/--
A response is written as the response of its prewritten items is: to the same
code and the same bytes, and whenever its request id fits.  If an item cannot
be written in advance, then the first such item gives the fault of the response.
-/
theorem encode_prewritten (v : Version) (id : Option RequestId) (r : Relayable)
    (xs : List r.Item) :
    (forall raws, r.Prewritten xs raws ->
      (forall out, v.encode ⟨id, r.message xs⟩ = .ok out <->
        v.encode ⟨id, r.unread raws⟩ = .ok out) ∧
      ((exists out, v.encode ⟨id, r.unread raws⟩ = .ok out) <->
        exists f, v.framing r.kind = some f ∧ f.Fits id)) ∧
    (forall before x after fault, xs = before ++ x :: after ->
      (forall y, y ∈ before -> exists raw, RawItem.ofTyped r.item y = .ok raw) ->
      RawItem.ofTyped r.item x = .error fault ->
      (exists f, v.framing r.kind = some f ∧ f.Fits id) ->
      v.encode ⟨id, r.message xs⟩ = .error fault) := by
  constructor
  · intro raws hraws
    constructor
    · exact encode_prewritten_iff hraws
    · rcases exists_framing v r with ⟨f, hframing, _⟩
      rw [exists_encode_unread_iff hframing raws, hframing]
      simp
  · rintro before x after fault rfl hbefore hx ⟨f, hframing, hfits⟩
    have hmessage : (r.message (before ++ x :: after)).encode = .error fault := by
      rw [Relayable.encode_message]
      exact Codec.list_encode_eq_error_of_first hbefore hx
    rw [← r.kind_message (before ++ x :: after)] at hframing
    exact encode_eq_error_of_message hframing hfits hmessage

/-- A transaction without a payload, and the same one in front of a reserved type. -/
theorem encode_prewritten_pooled :
    (RawItem.ofTyped .transaction (.typed 1 []) = .ok ⟨[0x01]⟩ ∧
      eth66.encode ⟨some ⟨7, by decide⟩, ⟨.pooledTransactionsRaw, [⟨[0x01]⟩]⟩⟩ =
        .ok (0x0a, [0xC3, 0x07, 0xC1, 0x01]) ∧
      eth66.encode ⟨some ⟨7, by decide⟩, ⟨.pooledTransactions, [.typed 1 []]⟩⟩ =
        .ok (0x0a, [0xC3, 0x07, 0xC1, 0x01])) ∧
    (RawItem.ofTyped .transaction (.typed 0x80 []) = .error (.invalidEnvelopeType 0x80) ∧
      eth66.encode ⟨some ⟨7, by decide⟩, ⟨.pooledTransactions, [.typed 1 [], .typed 0x80 []]⟩⟩ =
        .error (.invalidEnvelopeType 0x80)) := by
  have hfirst : RawItem.ofTyped .transaction (.typed 1 []) = .ok ⟨[0x01]⟩ := rfl
  have hsecond : RawItem.ofTyped .transaction (.typed 0x80 []) =
      .error (.invalidEnvelopeType 0x80) := rfl
  have hraw : eth66.encode ⟨some ⟨7, by decide⟩, ⟨.pooledTransactionsRaw, [⟨[0x01]⟩]⟩⟩ =
      .ok (0x0a, [0xC3, 0x07, 0xC1, 0x01]) := by
    have hid : (⟨7, by decide⟩ : RequestId).encode = [0x07] :=
      Uint.encode_of_lt _ (by decide) (by decide)
    exact encode_withId_eq_ok_iff.mpr ⟨rfl, rfl, [0xC1, 0x01], rfl, by rw [hid]; rfl⟩
  refine ⟨⟨hfirst, hraw, ?_⟩, hsecond, ?_⟩
  · have hraws : Relayable.pooledTransactions.Prewritten [.typed 1 []] [⟨[0x01]⟩] :=
      .cons hfirst .nil
    exact (((encode_prewritten eth66 _ .pooledTransactions _).1 _ hraws).1 _).mpr hraw
  · apply (encode_prewritten eth66 _ .pooledTransactions [.typed 1 [], .typed 0x80 []]).2
      [.typed 1 []] (.typed 0x80 []) [] _ rfl _ hsecond ⟨.withId, rfl, by simp [Framing.Fits]⟩
    intro y hy
    rw [List.mem_singleton.mp hy]
    exact ⟨_, hfirst⟩

end Version
end ChainWire
