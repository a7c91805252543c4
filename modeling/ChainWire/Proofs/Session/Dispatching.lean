import ChainWire.Proofs.Message.Faults
import ChainWire.Proofs.Session.Service

/-!
# Dispatchers and the codec

A dispatcher asks the handler that was registered last, and it passes on only
what answers the request.  Three tables have to agree for its answers to be
written: which kind answers which, which kinds a version carries, and which of
them travel with a request id.  They do, so the answer to a request that was
read has its place in the version in which the request was read.
-/

namespace ChainWire

namespace Dispatcher

section Registering

variable {d : Dispatcher} {k : Kind} {h : Handler} {entries : List (Kind × Handler)}
  {q p : Packet}

theorem registerAll_append (entries later : List (Kind × Handler)) (d : Dispatcher) :
    d.registerAll (entries ++ later) = (d.registerAll entries).registerAll later :=
  List.foldl_append

theorem handler?_registerAll_eq_some_iff :
    (empty.registerAll entries).handler? k = some h <->
      exists before after, entries = before ++ (k, h) :: after ∧
        forall entry, entry ∈ after -> entry.1 ≠ k := by
  constructor
  · -- Who was registered last is seen from the back of the list.
    induction entries using List.reverseRecOn with
    | nil =>
        intro hhandler
        cases hhandler
    | append_singleton entries last ih =>
        rcases last with ⟨k', h'⟩
        intro hhandler
        rw [registerAll_append] at hhandler
        by_cases hk : k' = k
        · subst hk
          have hlast := hhandler.symm.trans (handler?_register_self k' h' _)
          cases hlast
          exact ⟨entries, [], rfl, by simp⟩
        · rcases ih ((handler?_register_of_ne hk h' _).symm.trans hhandler) with
            ⟨before, after, hentries, hafter⟩
          refine ⟨before, after ++ [(k', h')], by simp [hentries], ?_⟩
          intro entry hentry
          rcases List.mem_append.mp hentry with hin | hlast
          · exact hafter entry hin
          · rw [List.mem_singleton.mp hlast]
            exact hk
  · intro hsplit
    rcases hsplit with ⟨before, after, hentries, hafter⟩
    rw [hentries, registerAll_append]
    show (((empty.registerAll before).register k h).registerAll after).handler? k = some h
    rw [handler?_registerAll hafter, handler?_register_self]

theorem dispatch_eq_ok_iff :
    d.dispatch q = .ok p <->
      exists h m, d.handler? q.kind = some h ∧ h q.message = .ok m ∧
        q.kind.answer? = some m.kind.materialized ∧ p = ⟨q.requestId, m⟩ := by
  constructor
  · intro hdispatch
    unfold dispatch at hdispatch
    split at hdispatch
    · cases hdispatch
    · rename_i h hhandler
      split at hdispatch
      · cases hdispatch
      · rename_i m hanswer
        split at hdispatch
        · rename_i hkind
          cases hdispatch
          exact ⟨h, m, hhandler, hanswer, beq_iff_eq.mp hkind, rfl⟩
        · cases hdispatch
  · intro hanswered
    rcases hanswered with ⟨h, m, hhandler, hanswer, hkind, hp⟩
    rw [hp]
    exact dispatch_of_handler hhandler hanswer (beq_iff_eq.mpr hkind)

end Registering
end Dispatcher

namespace Version

section Answering

variable {v : Version} {k a : Kind} {code : Nat} {b : Bytes} {q : Packet} {m : Message}

/-- Whoever carries a request carries its answer, and in the same framing. -/
theorem framing_of_answer? (hanswer : k.answer? = some a) : v.framing a = v.framing k := by
  cases k <;> cases hanswer <;> cases v <;> rfl

theorem exists_fits_of_decodeAs (h : v.decodeAs k b = .ok q) :
    exists f, v.framing q.kind = some f ∧ f.Fits q.requestId := by
  rcases decodeAs_eq_ok_iff.mp h with ⟨f, hframing, hexact⟩
  rcases Framing.lays_of_decode hexact with ⟨e, _, hlays, _⟩
  rw [kind_of_decodeAs h]
  exact ⟨f, hframing, (Framing.fits_iff_exists_lays e).mpr ⟨b, hlays⟩⟩

theorem exists_fits_of_decode (h : v.decode code b = .ok q ∨ v.decodeRelay code b = .ok q) :
    exists f, v.framing q.kind = some f ∧ f.Fits q.requestId := by
  rcases h with h | h
  · rcases Outcome.bind_eq_ok_iff.mp h with ⟨k, _, hread⟩
    exact exists_fits_of_decodeAs hread
  · rcases Outcome.bind_eq_ok_iff.mp h with ⟨k, _, hread⟩
    exact exists_fits_of_decodeAs hread

theorem fault?_encode_answer (h : v.decode code b = .ok q ∨ v.decodeRelay code b = .ok q)
    (hanswer : q.kind.answer? = some m.kind.materialized) :
    Outcome.fault? (v.encode ⟨q.requestId, m⟩) = TypedEnvelope.fault? m.types := by
  rcases exists_fits_of_decode h with ⟨f, hframing, hfits⟩
  rw [← framing_of_answer? hanswer, framing_materialized] at hframing
  exact fault?_encode (p := ⟨q.requestId, m⟩) hframing hfits

end Answering
end Version

namespace Dispatcher

/-- A packet is answered exactly if it is a request whose handler, the one registered last, comes
to a message that answers it.  The answer to a packet that was read can be written in the version
in which it was read, unless one of its items has a reserved type. -/
theorem dispatch_answers (entries : List (Kind × Handler)) (q p : Packet) :
    ((empty.registerAll entries).dispatch q = .ok p <->
      exists before h after m, entries = before ++ (q.kind, h) :: after ∧
        (forall entry, entry ∈ after -> entry.1 ≠ q.kind) ∧ h q.message = .ok m ∧
        q.kind.answer? = some m.kind.materialized ∧ p = ⟨q.requestId, m⟩) ∧
    ((empty.registerAll entries).dispatch q = .ok p ->
      q.kind.role = .request ∧
      forall (v : Version) (code : Nat) (b : Bytes) (fault : EncodeFault),
        v.decode code b = .ok q ∨ v.decodeRelay code b = .ok q ->
        v.encode p = .error fault ->
        exists type, TypedEnvelope.isReserved type = true ∧
          fault = .invalidEnvelopeType type) := by
  constructor
  · rw [dispatch_eq_ok_iff]
    constructor
    · intro hanswered
      rcases hanswered with ⟨h, m, hhandler, hanswer, hkind, hp⟩
      rcases handler?_registerAll_eq_some_iff.mp hhandler with
        ⟨before, after, hentries, hafter⟩
      exact ⟨before, h, after, m, hentries, hafter, hanswer, hkind, hp⟩
    · intro hanswered
      rcases hanswered with ⟨before, h, after, m, hentries, hafter, hanswer, hkind, hp⟩
      have hhandler := handler?_registerAll_eq_some_iff.mpr ⟨before, after, hentries, hafter⟩
      exact ⟨h, m, hhandler, hanswer, hkind, hp⟩
  · intro hdispatch
    rcases dispatch_eq_ok_iff.mp hdispatch with ⟨h, m, _, _, hkind, hp⟩
    constructor
    · exact Kind.role_of_answer? hkind
    · intro v code b fault hread hencode
      rw [hp] at hencode
      have hfault := Version.fault?_encode_answer hread hkind
      rw [Outcome.fault?_eq_some_iff.mpr hencode] at hfault
      exact TypedEnvelope.exists_of_fault? hfault.symm

/-- A pool that was registered over another one answers with a transaction of a reserved type. -/
theorem dispatch_answers_reserved :
    let refuse : Handler := fun _ => .error .unexpectedMessage
    let pool : Handler := fun _ => .ok ⟨.pooledTransactions, [.typed 0x80 []]⟩
    let dispatcher := empty.registerAll
      [(.getPooledTransactions, refuse), (.getPooledTransactions, pool), (.getReceipts, refuse)]
    dispatcher.dispatch ⟨some ⟨7, by decide⟩, ⟨.getPooledTransactions, []⟩⟩ =
        .ok ⟨some ⟨7, by decide⟩, ⟨.pooledTransactions, [.typed 0x80 []]⟩⟩ ∧
      Version.eth66.decode 0x09 [0xC2, 0x07, 0xC0] =
        .ok ⟨some ⟨7, by decide⟩, ⟨.getPooledTransactions, []⟩⟩ ∧
      exists fault type,
        Version.eth66.encode ⟨some ⟨7, by decide⟩, ⟨.pooledTransactions, [.typed 0x80 []]⟩⟩ =
          .error fault ∧
        TypedEnvelope.isReserved type = true ∧ fault = .invalidEnvelopeType type := by
  intro refuse pool dispatcher
  let request : Packet := ⟨some ⟨7, by decide⟩, ⟨.getPooledTransactions, []⟩⟩
  let answer : Packet := ⟨some ⟨7, by decide⟩, ⟨.pooledTransactions, [.typed 0x80 []]⟩⟩
  rcases dispatch_answers
      [(.getPooledTransactions, refuse), (.getPooledTransactions, pool), (.getReceipts, refuse)]
      request answer with ⟨hiff, hplace⟩
  have hdispatch : dispatcher.dispatch request = .ok answer :=
    hiff.mpr ⟨[(.getPooledTransactions, refuse)], pool, [(.getReceipts, refuse)], _, rfl,
      by decide, rfl, rfl, rfl⟩
  have hread : Version.eth66.decode 0x09 [0xC2, 0x07, 0xC0] = .ok request := rfl
  have hencode : Version.eth66.encode answer = .error (.invalidEnvelopeType 0x80) := rfl
  rcases (hplace hdispatch).2 .eth66 _ _ _ (Or.inl hread) hencode with ⟨type, hreserved, hfault⟩
  exact ⟨hdispatch, hread, _, type, hencode, hreserved, hfault⟩

end Dispatcher
end ChainWire
