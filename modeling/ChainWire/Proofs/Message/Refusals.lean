import ChainWire.Proofs.Message.Faults

/-!
# Which packets are written

A packet passes three checks before it is written: the version carries its
kind, its request id is there if and only if the kind is wrapped, and no type
byte in its body is reserved.  The first check that fails gives the fault, and
nothing else can keep a packet from being written.
-/

namespace ChainWire

namespace TypedEnvelope

theorem isReserved_of_le {type : UInt8} (h : 0x80 <= type.toNat) : isReserved type = true :=
  decide_eq_true h

theorem isReserved_of_lt {type : UInt8} (h : type.toNat < 0x80) : isReserved type = false :=
  decide_eq_false (Nat.not_le.mpr h)

theorem fault?_of_first {before after : List UInt8} {type : UInt8}
    (hbefore : forall t, t ∈ before -> t.toNat < 0x80) (htype : 0x80 <= type.toNat) :
    fault? (before ++ type :: after) = some (.invalidEnvelopeType type) := by
  have hnone : before.find? isReserved = none := by
    apply List.find?_eq_none.mpr
    intro t ht
    simp [isReserved_of_lt (hbefore t ht)]
  rw [fault?, List.find?_append, hnone, Option.none_or,
    List.find?_cons_of_pos (isReserved_of_le htype)]
  rfl

theorem fault?_eq_none {types : List UInt8} (h : forall t, t ∈ types -> t.toNat < 0x80) :
    fault? types = none := by
  apply Option.map_eq_none_iff.mpr
  apply List.find?_eq_none.mpr
  intro t ht
  simp [isReserved_of_lt (h t ht)]

end TypedEnvelope

namespace Kind

/-- Whether the bodies of this kind hold transactions or receipts that were read. -/
def hasTypes : Kind -> Bool
  | transactions | blockBodies | newBlock | pooledTransactions | receipts => true
  | _ => false

theorem types_eq_nil {k : Kind} (h : k.hasTypes = false) (body : k.Body) : k.types body = [] := by
  cases k with
  | transactions | blockBodies | newBlock | pooledTransactions | receipts =>
      cases h
  | _ =>
      rfl

end Kind

theorem Framing.fits_iff_isSome {f : Framing} {id : Option RequestId} :
    f.Fits id <-> id.isSome = (f == .withId) := by
  cases f <;> cases id <;> simp [Fits]

namespace Version

section Checks

variable {v : Version} {p : Packet}

/-!
## The checks in front of the body
-/

theorem encode_of_not_supports (h : v.supports p.kind = false) :
    v.encode p = .error (.unsupportedKind v p.kind) := by
  simp [encode, framing, h]

theorem encode_of_missing_id (hsupports : v.supports p.kind = true)
    (hwraps : v.wraps p.kind = true) (hid : p.requestId = none) :
    v.encode p = .error (.missingRequestId p.kind) := by
  rcases p with ⟨id, m⟩
  subst hid
  rw [encode, framing_of_supports hsupports, hwraps]
  rfl

theorem encode_of_unexpected_id (hsupports : v.supports p.kind = true)
    (hwraps : v.wraps p.kind = false) {id : RequestId} (hid : p.requestId = some id) :
    v.encode p = .error (.unexpectedRequestId p.kind) := by
  rcases p with ⟨requestId, m⟩
  subst hid
  rw [encode, framing_of_supports hsupports, hwraps]
  rfl

/-!
## The body
-/

theorem fault?_encode_of_id (hsupports : v.supports p.kind = true)
    (hid : p.requestId.isSome = v.wraps p.kind) :
    Outcome.fault? (v.encode p) = TypedEnvelope.fault? p.message.types := by
  apply fault?_encode (framing_of_supports hsupports)
  rw [Framing.fits_iff_isSome, hid]
  cases v.wraps p.kind <;> rfl

theorem code_of_encode {out : Nat × Bytes} (h : v.encode p = .ok out) :
    out.1 = p.kind.code := by
  rcases encode_eq_ok_iff.mp h with ⟨_, _, _, _, _, hcode⟩
  exact hcode

theorem exists_encode_of_types (hsupports : v.supports p.kind = true)
    (hid : p.requestId.isSome = v.wraps p.kind)
    (htypes : TypedEnvelope.fault? p.message.types = none) :
    exists b, v.encode p = .ok (p.kind.code, b) := by
  rw [← fault?_encode_of_id hsupports hid] at htypes
  rcases Outcome.fault?_eq_none_iff.mp htypes with ⟨⟨code, b⟩, hencode⟩
  have hcode := code_of_encode hencode
  dsimp only at hcode
  exact ⟨b, hcode ▸ hencode⟩

end Checks

/--
A packet is refused for its kind, else for its request id, else for the first
reserved type byte in its body; else it is written, under the code of its kind.
So raw kinds, and all others that hold no type bytes, are written as soon as
version and request id are right.
-/
theorem encode_eq_of_first_check (v : Version) (p : Packet) :
    (v.supports p.kind = false -> v.encode p = .error (.unsupportedKind v p.kind)) ∧
    (v.supports p.kind = true ->
      (v.wraps p.kind = true -> p.requestId = none ->
        v.encode p = .error (.missingRequestId p.kind)) ∧
      (v.wraps p.kind = false -> forall id, p.requestId = some id ->
        v.encode p = .error (.unexpectedRequestId p.kind)) ∧
      (p.requestId.isSome = v.wraps p.kind ->
        (forall before type after, p.message.types = before ++ type :: after ->
          (forall t, t ∈ before -> t.toNat < 0x80) -> 0x80 <= type.toNat ->
          v.encode p = .error (.invalidEnvelopeType type)) ∧
        ((forall t, t ∈ p.message.types -> t.toNat < 0x80) ->
          exists b, v.encode p = .ok (p.kind.code, b)) ∧
        (p.kind.hasTypes = false -> exists b, v.encode p = .ok (p.kind.code, b)))) := by
  refine ⟨encode_of_not_supports, fun hsupports => ⟨encode_of_missing_id hsupports, ?_, ?_⟩⟩
  · intro hwraps id hid
    exact encode_of_unexpected_id hsupports hwraps hid
  · intro hid
    refine ⟨?_, ?_, ?_⟩
    · intro before type after htypes hbefore htype
      apply Outcome.fault?_eq_some_iff.mp
      rw [fault?_encode_of_id hsupports hid, htypes]
      exact TypedEnvelope.fault?_of_first hbefore htype
    · intro htypes
      exact exists_encode_of_types hsupports hid (TypedEnvelope.fault?_eq_none htypes)
    · intro hkind
      have htypes : p.message.types = [] := Kind.types_eq_nil hkind p.message.body
      apply exists_encode_of_types hsupports hid
      rw [htypes]
      rfl

/-- Two bodies, of which the second holds the first reserved type. -/
def reservedBodies : Message :=
  ⟨.blockBodies, [⟨[.typed 2 [], .legacy default], []⟩, ⟨[.typed 0x90 [1], .typed 0x80 []], []⟩]⟩

/-- One packet for each check, and two that pass them all. -/
theorem encode_eq_of_first_check_reservedBodies :
    (eth67.supports .getNodeData = false ∧
      eth67.encode ⟨none, ⟨.getNodeData, []⟩⟩ = .error (.unsupportedKind eth67 .getNodeData)) ∧
    (eth66.wraps .blockBodies = true ∧
      eth66.encode ⟨none, reservedBodies⟩ = .error (.missingRequestId .blockBodies)) ∧
    (eth65.wraps .blockBodies = false ∧
      eth65.encode ⟨some ⟨7, by decide⟩, reservedBodies⟩ =
        .error (.unexpectedRequestId .blockBodies)) ∧
    (reservedBodies.types = [2, 0x90, 0x80] ∧
      eth66.encode ⟨some ⟨7, by decide⟩, reservedBodies⟩ = .error (.invalidEnvelopeType 0x90)) ∧
    (exists b, eth65.encode ⟨none, ⟨.transactions, [.typed 0x7F []]⟩⟩ = .ok (0x02, b)) ∧
    (Kind.hasTypes .receiptsRaw = false ∧
      exists b, eth68.encode ⟨some ⟨7, by decide⟩, ⟨.receiptsRaw, [⟨[0xFF]⟩]⟩⟩ =
        .ok (0x10, b)) := by
  have hsupports : eth66.supports .blockBodies = true := rfl
  refine ⟨⟨rfl, (encode_eq_of_first_check eth67 _).1 rfl⟩, ⟨rfl, ?_⟩, ⟨rfl, ?_⟩, ⟨rfl, ?_⟩, ?_,
    rfl, ?_⟩
  · exact ((encode_eq_of_first_check eth66 ⟨none, reservedBodies⟩).2 hsupports).1 rfl rfl
  · exact ((encode_eq_of_first_check eth65 ⟨_, reservedBodies⟩).2 rfl).2.1 rfl _ rfl
  · have hpacket := ((encode_eq_of_first_check eth66
      ⟨some ⟨7, by decide⟩, reservedBodies⟩).2 hsupports).2.2 rfl
    exact hpacket.1 [2] 0x90 [0x80] rfl (List.forall_mem_singleton.mpr (by decide)) (by decide)
  · have hpacket := ((encode_eq_of_first_check eth65
      ⟨none, ⟨.transactions, [.typed 0x7F []]⟩⟩).2 rfl).2.2 rfl
    exact hpacket.2.1 (List.forall_mem_singleton.mpr (by decide))
  · exact (((encode_eq_of_first_check eth68
      ⟨some ⟨7, by decide⟩, ⟨.receiptsRaw, [⟨[0xFF]⟩]⟩⟩).2 rfl).2.2 rfl).2.2 rfl

end Version
end ChainWire
