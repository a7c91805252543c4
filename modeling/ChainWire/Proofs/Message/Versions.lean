import ChainWire.Proofs.Message.Framing

/-!
# Messages in different versions

The body of a message is the same in every version that carries its kind.  Only
the framing can differ, and it does so in one way: the base version leaves out
the request ids that all later versions put into requests and responses.
-/

namespace ChainWire

open Header (payloadLimit)

namespace Version

/-- Two versions write and read the messages of a kind alike, with the same faults. -/
structure AgreeOn (v w : Version) (k : Kind) : Prop where
  encode : forall p, p.kind = k -> v.encode p = w.encode p
  decodeAs : forall b, v.decodeAs k b = w.decodeAs k b
  decode : forall b, v.decode k.code b = w.decode k.code b
  decodeRelay : forall b, v.decodeRelay k.code b = w.decodeRelay k.code b

/-!
## Framings of one kind

A kind and its other form belong to the same versions and are laid out alike.
-/

theorem framing_of_supports {v : Version} {k : Kind} (h : v.supports k = true) :
    v.framing k = some (if v.wraps k then .withId else .bare) :=
  framing_eq_some_iff.mpr ⟨h, rfl⟩

theorem framing_materialized (v : Version) (k : Kind) :
    v.framing k.materialized = v.framing k := by
  cases k <;> rfl

theorem framing_relayed (v : Version) (k : Kind) : v.framing k.relayed = v.framing k := by
  cases k <;> rfl

theorem wraps_notification (v : Version) {k : Kind} (h : k.role = .notification) :
    v.wraps k = false := by
  simp [wraps, h]

theorem wraps_of_ne_eth65 {v : Version} (hv : v ≠ eth65) (k : Kind) :
    v.wraps k = (k.role != .notification) := by
  simp [wraps, usesRequestIds, hv]

section Framings

variable {v w : Version} {k : Kind}

theorem decodeAs_congr (h : v.framing k = w.framing k) (hv : v.supports k = true) (b : Bytes) :
    v.decodeAs k b = w.decodeAs k b := by
  unfold decodeAs
  rw [← h, framing_of_supports hv]

theorem agreeOn_of_wraps_eq (hv : v.supports k = true) (hw : w.supports k = true)
    (hwraps : v.wraps k = w.wraps k) : AgreeOn v w k := by
  have hframing : v.framing k = w.framing k := by
    rw [framing_of_supports hv, framing_of_supports hw, hwraps]
  have hmaterialized : v.framing k.materialized = w.framing k.materialized := by
    rw [framing_materialized, framing_materialized, hframing]
  have hrelayed : v.framing k.materialized.relayed = w.framing k.materialized.relayed := by
    rw [framing_relayed, framing_relayed, hmaterialized]
  have hsupported {k' : Kind} (h : v.framing k' = v.framing k) : v.supports k' = true := by
    rw [framing_of_supports hv] at h
    exact (framing_eq_some_iff.mp h).1
  constructor
  · rintro p rfl
    unfold encode
    rw [← hframing, framing_of_supports hv]
  · exact decodeAs_congr hframing hv
  · intro b
    rw [decode_code hv, decode_code hw]
    exact decodeAs_congr hmaterialized (hsupported (framing_materialized v k)) b
  · intro b
    rw [decodeRelay_code hv, decodeRelay_code hw]
    apply decodeAs_congr hrelayed (hsupported _) b
    rw [framing_relayed, framing_materialized]

end Framings

/-!
## Request ids
-/

section RequestIds

variable {v w : Version} {k : Kind} {m : Message} {id : RequestId}

theorem encode_withId_iff_bare (hv : v.framing m.kind = some .withId)
    (hw : w.framing m.kind = some .bare) (code : Nat) (b : Bytes) :
    v.encode ⟨some id, m⟩ = .ok (code, b) <->
      exists e, w.encode ⟨none, m⟩ = .ok (code, e) ∧ b = Item.ofPayload (id.encode ++ e) := by
  rw [encode_withId_eq_ok_iff]
  constructor
  · rintro ⟨_, hcode, e, he, hb⟩
    exact ⟨e, encode_bare_eq_ok_iff.mpr ⟨hw, hcode, he⟩, hb⟩
  · rintro ⟨e, hbare, hb⟩
    rcases encode_bare_eq_ok_iff.mp hbare with ⟨_, hcode, he⟩
    exact ⟨hv, hcode, e, he, hb⟩

/--
The wrapped reader ends where its list ends, the bare one where the input ends.
Inside the list the body is a whole item, so both ends are at the same place.
-/
theorem decodeAs_withId_iff_bare (hv : v.framing k = some .withId) (hw : w.framing k = some .bare)
    {b : Bytes} (hlength : b.length < payloadLimit) :
    v.decodeAs k b = .ok ⟨some id, m⟩ <->
      exists e, b = Item.ofPayload (id.encode ++ e) ∧ w.decodeAs k e = .ok ⟨none, m⟩ := by
  constructor
  · intro h
    rcases decodeAs_eq_ok_iff.mp h with ⟨f, hf, hexact⟩
    rcases Framing.lays_of_decode hexact with ⟨e, _, hlays, hbody⟩
    have he := (Message.decode_itemWise k).isWhole_of_eq_ok hbody
    refine ⟨e, ?_, decodeAs_eq_ok_iff.mpr
      ⟨.bare, hw, Framing.decode_of_lays .bare he he hbody⟩⟩
    cases hlays
    rfl
  · rintro ⟨e, rfl, h⟩
    rcases decodeAs_eq_ok_iff.mp h with ⟨f, hf, hexact⟩
    rcases Framing.lays_of_decode hexact with ⟨_, he, hbare, hbody⟩
    cases hbare
    have hlays : Framing.withId.Lays (some id) e (Item.ofPayload (id.encode ++ e)) := .withId
    have hb := hlays.isWhole he hlength
    exact decodeAs_eq_ok_iff.mpr ⟨.withId, hv, Framing.decode_of_lays hlays hb he hbody⟩

end RequestIds

/--
Versions differ by their envelopes alone.  Notifications are the same in the
base version and in every later one.  Any other message of a later version is
the list of a request id and of what the base version makes of the message, in
writing as well as in reading.  Later versions agree on all that they share.
-/
theorem agreeOn_or_enveloped :
    (forall (v : Version) (k : Kind), v ≠ eth65 -> v.supports k = true ->
      eth65.supports k = true ->
      (k.role = .notification -> AgreeOn v eth65 k) ∧
      (k.role ≠ .notification -> forall (m : Message) (id : RequestId), m.kind = k ->
        (forall code b, v.encode ⟨some id, m⟩ = .ok (code, b) <->
          exists e, eth65.encode ⟨none, m⟩ = .ok (code, e) ∧
            b = Item.ofPayload (id.encode ++ e)) ∧
        (forall b : Bytes, b.length < payloadLimit ->
          (v.decodeAs k b = .ok ⟨some id, m⟩ <->
            exists e, b = Item.ofPayload (id.encode ++ e) ∧
              eth65.decodeAs k e = .ok ⟨none, m⟩)))) ∧
    (forall (v w : Version) (k : Kind), v ≠ eth65 -> w ≠ eth65 -> v.supports k = true ->
      w.supports k = true -> AgreeOn v w k) := by
  constructor
  · intro v k hv hsupports hbase
    constructor
    · intro hrole
      exact agreeOn_of_wraps_eq hsupports hbase (wraps_notification v hrole)
    · rintro hrole m id rfl
      have hwithId : v.framing m.kind = some .withId := by
        rw [framing_of_supports hsupports, wraps_of_ne_eth65 hv]
        simp [hrole]
      have hbare : eth65.framing m.kind = some .bare := framing_of_supports hbase
      exact ⟨encode_withId_iff_bare hwithId hbare,
        fun b hlength => decodeAs_withId_iff_bare hwithId hbare hlength⟩
  · intro v w k hv hw hsupports hsupports'
    apply agreeOn_of_wraps_eq hsupports hsupports'
    rw [wraps_of_ne_eth65 hv, wraps_of_ne_eth65 hw]

/-- A request for the receipts of one block in both forms, and two versions apart from the base
version. -/
theorem agreeOn_or_enveloped_getReceipts :
    AgreeOn eth68 eth65 .transactions ∧
      (eth66.encode ⟨some ⟨7, by decide⟩, ⟨.getReceipts, [⟨List.replicate 32 0xAB, rfl⟩]⟩⟩ =
          .ok (0x0f, [0xE3, 0x07, 0xE1, 0xA0] ++ List.replicate 32 0xAB) ∧
        eth66.decodeAs .getReceipts ([0xE3, 0x07, 0xE1, 0xA0] ++ List.replicate 32 0xAB) =
          .ok ⟨some ⟨7, by decide⟩, ⟨.getReceipts, [⟨List.replicate 32 0xAB, rfl⟩]⟩⟩) ∧
      AgreeOn eth66 eth67 .getReceipts := by
  let request : Message := ⟨.getReceipts, [⟨List.replicate 32 0xAB, rfl⟩]⟩
  have hid : (⟨7, by decide⟩ : RequestId).encode = [0x07] :=
    Uint.encode_of_lt _ (by decide) (by decide)
  have hlist : [0xE3, 0x07, 0xE1, 0xA0] ++ List.replicate 32 0xAB =
      Item.ofPayload (Uint.encode (⟨7, by decide⟩ : RequestId) ++
        ([0xE1, 0xA0] ++ List.replicate 32 0xAB)) := by
    rw [hid]
    rfl
  have hbare : eth65.encode ⟨none, request⟩ =
      .ok (0x0f, [0xE1, 0xA0] ++ List.replicate 32 0xAB) := rfl
  have hread : eth65.decodeAs .getReceipts ([0xE1, 0xA0] ++ List.replicate 32 0xAB) =
      .ok ⟨none, request⟩ := rfl
  have hwrapped := (agreeOn_or_enveloped.1 eth66 .getReceipts (by decide) rfl rfl).2 (by decide)
    request ⟨7, by decide⟩ rfl
  refine ⟨?_, ⟨?_, ?_⟩, ?_⟩
  · exact (agreeOn_or_enveloped.1 eth68 .transactions (by decide) rfl rfl).1 rfl
  · exact (hwrapped.1 _ _).mpr ⟨_, hbare, hlist⟩
  · exact (hwrapped.2 _ (by decide)).mpr ⟨_, hlist, hread⟩
  · exact agreeOn_or_enveloped.2 eth66 eth67 .getReceipts (by decide) (by decide) rfl rfl

end Version
end ChainWire
