import ChainWire.Proofs.Session.Exchange

/-!
# Answering requests

A request goes out, the other end receives it, a dispatcher has it answered, and
the answer comes back with the id of the request.  The dispatcher asks the
handler that was registered last for the kind of the request.  Whether the
handler answers with values or with items that are written already makes no
difference to the one who asked.
-/

namespace ChainWire

open Header (payloadLimit)

namespace Kind

section Answering

variable {k a : Kind}

theorem role_of_answer? (h : k.answer? = some a) : k.role = .request := by
  cases k <;> first | rfl | cases h

theorem not_raw_of_answer? (h : k.answer? = some a) : k.isRaw = false ∧ a.isRaw = false := by
  cases k <;> cases h <;> decide

theorem isAnsweredBy_relayed (h : k.answer? = some a) : k.isAnsweredBy a.relayed = true := by
  cases k <;> cases h <;> decide

theorem isAnsweredBy_of_answer? (h : k.answer? = some a) : k.isAnsweredBy a = true := by
  cases k <;> cases h <;> decide

end Answering
end Kind

/-!
## Dispatchers
-/

namespace Dispatcher

def registerAll (entries : List (Kind × Handler)) (d : Dispatcher) : Dispatcher :=
  entries.foldl (fun d entry => d.register entry.1 entry.2) d

theorem handler?_register_self (k : Kind) (h : Handler) (d : Dispatcher) :
    (d.register k h).handler? k = some h := by
  simp [register, handler?]

theorem handler?_register_of_ne {k k' : Kind} (hk : k ≠ k') (h : Handler) (d : Dispatcher) :
    (d.register k h).handler? k' = d.handler? k' := by
  simp [register, handler?, hk]

theorem handler?_registerAll {k : Kind} {entries : List (Kind × Handler)}
    (h : forall entry, entry ∈ entries -> entry.1 ≠ k) (d : Dispatcher) :
    (d.registerAll entries).handler? k = d.handler? k := by
  induction entries generalizing d with
  | nil =>
      rfl
  | cons entry rest ih =>
      have hfirst := handler?_register_of_ne (h entry (by simp)) entry.2 d
      have hrest := ih (fun x hx => h x (by simp [hx])) (d.register entry.1 entry.2)
      exact hrest.trans hfirst

theorem dispatch_of_handler {d : Dispatcher} {h : Handler} {p : Packet} {answer : Message}
    (hhandler : d.handler? p.kind = some h) (hanswer : h p.message = .ok answer)
    (hkind : p.kind.isAnsweredBy answer.kind = true) :
    d.dispatch p = .ok ⟨p.requestId, answer⟩ := by
  simp [dispatch, hhandler, hanswer, hkind]

theorem dispatch_of_registered (earlier : Dispatcher) {later : List (Kind × Handler)}
    {h : Handler} {m r answer : Message} (id : Option RequestId)
    (hlater : forall entry, entry ∈ later -> entry.1 ≠ m.kind) (hanswer : h m = .ok answer)
    (hkind : m.kind.answer? = some r.kind) (hform : answer = r ∨ r.KeptAs answer) :
    ((earlier.register m.kind h).registerAll later).dispatch ⟨id, m⟩ = .ok ⟨id, answer⟩ := by
  have hhandler : ((earlier.register m.kind h).registerAll later).handler? m.kind = some h := by
    rw [handler?_registerAll hlater, handler?_register_self]
  have hanswered : m.kind.isAnsweredBy answer.kind = true := by
    rcases hform with rfl | hkept
    · exact Kind.isAnsweredBy_of_answer? hkind
    · rw [hkept.kind_eq]
      exact Kind.isAnsweredBy_relayed hkind
  exact dispatch_of_handler (p := ⟨id, m⟩) hhandler hanswer hanswered

end Dispatcher

/-!
## Dialogues
-/

theorem Partner.turn_of_answered {session : Session} {pipe : Pipe} {d : Dispatcher}
    {request answer : Packet} {e₁ e₂ : Endpoint}
    (hreceive : Endpoint.receive ⟨session, pipe⟩ = (.done request, e₁))
    (hdispatch : d.dispatch request = .ok answer) (hsend : e₁.send answer = (.done (), e₂)) :
    (ofScript (some session) [.receive, .answer d]).turn pipe =
      (⟨some e₂.session, [], some (.packet request), none⟩, e₂.pipe) := by
  simp [turn, ofScript, follow, act, hreceive, hdispatch, send, hsend]

namespace Endpoint

theorem converse_of_turn {m : Message} {drawn : RequestId} {id : Option RequestId}
    {partner partner' : Partner} {e e₁ e₂ : Endpoint} {pipe : Pipe} {r : Packet}
    (hrequest : e.request m drawn = (.done id, e₁))
    (hwaiting : e₁.receiveAnswer m.kind id = (.waiting, e₁))
    (hturn : partner.turn e₁.pipe.flip = (partner', pipe))
    (hanswer : receiveAnswer m.kind id ⟨e₁.session, pipe.flip⟩ = (.done r, e₂)) :
    e.converse m drawn partner = (.done r, e₂, partner') := by
  have hyields : e₁.yieldTo partner = (⟨e₁.session, pipe.flip⟩, partner') := by
    rw [yieldTo, hturn]
  have hask : besidePartner (request m drawn) (e, partner) = (.done id, e₁, partner) := by
    rw [besidePartner_of_not_waiting (by simp [hrequest]), hrequest]
  rw [converse, exchangeBy_of_sent hask, besidePartner_of_waiting hwaiting, hyields, hanswer]

section Serving

variable {v : Version} {max : Nat} {m r answer : Message} {drawn : RequestId}
  {id : Option RequestId} {c₁ c₂ : Nat} {b₁ b₂ : Bytes} {h : Handler}
  {later : List (Kind × Handler)}

variable (capacity : Nat) (earlier : Dispatcher) (hmax : max < payloadLimit)
  (hid : id = if v = .eth65 then none else some drawn)
  (hrequest : v.encode ⟨id, m⟩ = .ok (c₁, b₁)) (hrequestSize : b₁.length <= max)
  (hresponse : v.encode ⟨id, r⟩ = .ok (c₂, b₂)) (hresponseSize : b₂.length <= max)
  (hkind : m.kind.answer? = some r.kind)
  (hlater : forall entry, entry ∈ later -> entry.1 ≠ m.kind)
  (hanswer : h m = .ok answer) (hform : answer = r ∨ r.KeptAs answer)

include hmax hid hrequest hrequestSize hresponse hresponseSize hkind hlater hanswer hform

/-- The request goes out, and what a dialogue comes to, whatever the two sessions have counted
before. -/
theorem converse_of_registered (asker server : Counters) :
    (request m drawn ⟨⟨v, max, asker⟩, .empty capacity⟩).1 = .done id ∧
    converse m drawn
        (.ofScript (some ⟨v, max, server⟩)
          [.receive, .answer ((earlier.register m.kind h).registerAll later)])
        ⟨⟨v, max, asker⟩, .empty capacity⟩ =
      (.done ⟨id, r⟩,
        ⟨⟨v, max, (asker.recordSent b₁.length).recordReceived b₂.length⟩, .empty capacity⟩,
        { session := some ⟨v, max, (server.recordReceived b₁.length).recordSent b₂.length⟩
          script := []
          received := some (.packet ⟨id, m⟩)
          fault := none }) := by
  have hroom : 0 < (Channel.empty capacity).capacity := Nat.le_max_right capacity 1
  have hraw := Kind.not_raw_of_answer? hkind
  have hdrawn : forall x, id = some x -> x = drawn := by
    intro x hx
    rw [hid] at hx
    split at hx <;> cases hx
    rfl
  let e₀ : Endpoint := ⟨⟨v, max, asker⟩, .empty capacity⟩
  let e₁ := e₀.afterSending ⟨c₁, b₁⟩
  let s₀ : Endpoint := ⟨⟨v, max, server⟩, e₁.pipe.flip⟩
  let s₁ := (s₀.afterTaking []).counting b₁.length
  let s₂ := s₁.afterSending ⟨c₂, b₂⟩
  let e₂ : Endpoint := ⟨e₁.session, s₂.pipe.flip⟩
  have hsent : e₀.request m drawn = (.done id, e₁) :=
    request_of_send (Kind.role_of_answer? hkind)
      (attachedId_eq_of_encode (e := e₀) hrequest hdrawn)
      (send_eq_of_room hrequest hrequestSize rfl hroom)
  have hwaiting : e₁.receiveAnswer m.kind id = (.waiting, e₁) :=
    receiveAnswer_of_waiting (receiveBy_eq_of_nil rfl)
  have hreceived : s₀.receive = (.done ⟨id, m⟩, s₁) :=
    receive_eq_of_encode (m := ⟨c₁, b₁⟩) rfl hraw.1 hrequest hrequestSize hmax
  have hanswered : s₁.send ⟨id, answer⟩ = (.done (), s₂) := by
    have hwritten : v.encode ⟨id, answer⟩ = .ok (c₂, b₂) := by
      rcases hform with rfl | hkept
      · exact hresponse
      · exact (Version.encode_keptAs hkept).mpr hresponse
    exact send_eq_of_room hwritten hresponseSize rfl hroom
  have hreturned : e₂.receive = (.done ⟨id, r⟩, (e₂.afterTaking []).counting b₂.length) :=
    receive_eq_of_encode (m := ⟨c₂, b₂⟩) rfl hraw.2 hresponse hresponseSize hmax
  have hdispatch := Dispatcher.dispatch_of_registered earlier id hlater hanswer hkind hform
  exact ⟨congrArg Prod.fst hsent,
    converse_of_turn hsent hwaiting (Partner.turn_of_answered hreceived hdispatch hanswered)
      (receiveAnswer_of_done hreturned rfl (Kind.isAnsweredBy_of_answer? hkind))⟩

/-- The other end receives the request as it was sent, and the response comes back under the same
id, whether it was answered as it is or with its items written before. -/
theorem converse_answered :
    converse m drawn
        (.ofScript (some ⟨v, max, .zero⟩)
          [.receive, .answer ((earlier.register m.kind h).registerAll later)])
        ⟨⟨v, max, .zero⟩, .empty capacity⟩ =
      (.done ⟨id, r⟩,
        ⟨⟨v, max, ⟨⟨1, .ofNat b₁.length⟩, ⟨1, .ofNat b₂.length⟩, 0, 0, 0, 0⟩⟩, .empty capacity⟩,
        { session := some
            ⟨v, max, ⟨⟨1, .ofNat b₂.length⟩, ⟨1, .ofNat b₁.length⟩, 0, 0, 0, 0⟩⟩
          script := []
          received := some (.packet ⟨id, m⟩)
          fault := none }) := by
  rw [(converse_of_registered capacity earlier hmax hid hrequest hrequestSize hresponse
    hresponseSize hkind hlater hanswer hform .zero .zero).2]
  simp [Counters.zero, Counters.recordSent, Counters.recordReceived, Traffic.record]

/-- For the one who asks, this is an exchange: the other end serves the request while the response
is awaited. -/
theorem exchangeWhile_answered :
    exchangeWhile
        (Partner.whileAwaited (.ofScript (some ⟨v, max, .zero⟩)
          [.receive, .answer ((earlier.register m.kind h).registerAll later)]))
        m drawn ⟨⟨v, max, .zero⟩, .empty capacity⟩ =
      (.done ⟨id, r⟩,
        ⟨⟨v, max, ⟨⟨1, .ofNat b₁.length⟩, ⟨1, .ofNat b₂.length⟩, 0, 0, 0, 0⟩⟩,
          .empty capacity⟩) := by
  rcases converse_of_registered capacity earlier hmax hid hrequest hrequestSize hresponse
    hresponseSize hkind hlater hanswer hform .zero .zero with ⟨hsent, hconverse⟩
  rw [exchangeWhile_eq_converse _ (by simp [hsent]), hconverse]
  simp [Counters.zero, Counters.recordSent, Counters.recordReceived, Traffic.record]

end Serving

/-- A second handler takes over and answers with a transaction that is written already. -/
theorem converse_answered_pooled :
    let refuse : Handler := fun _ => .error .unexpectedMessage
    let pool : Handler := fun _ => .ok ⟨.pooledTransactionsRaw, [⟨[0x01]⟩]⟩
    converse ⟨.getPooledTransactions, []⟩ ⟨7, by decide⟩
        (.ofScript (some ⟨.eth66, 1024, .zero⟩)
          [.receive, .answer (((Dispatcher.empty.register .getPooledTransactions refuse).register
            .getPooledTransactions pool).registerAll [(.getReceipts, refuse)])])
        ⟨⟨.eth66, 1024, .zero⟩, .empty 1⟩ =
      (.done ⟨some ⟨7, by decide⟩, ⟨.pooledTransactions, [.typed 1 []]⟩⟩,
        ⟨⟨.eth66, 1024, ⟨⟨1, 3⟩, ⟨1, 4⟩, 0, 0, 0, 0⟩⟩, .empty 1⟩,
        { session := some ⟨.eth66, 1024, ⟨⟨1, 4⟩, ⟨1, 3⟩, 0, 0, 0, 0⟩⟩
          script := []
          received := some (.packet ⟨some ⟨7, by decide⟩, ⟨.getPooledTransactions, []⟩⟩)
          fault := none }) := by
  have hid : (⟨7, by decide⟩ : RequestId).encode = [0x07] :=
    Uint.encode_of_lt _ (by decide) (by decide)
  have hrequest : Version.eth66.encode ⟨some ⟨7, by decide⟩, ⟨.getPooledTransactions, []⟩⟩ =
      .ok (0x09, [0xC2, 0x07, 0xC0]) :=
    Version.encode_withId_eq_ok_iff.mpr ⟨rfl, rfl, [0xC0], rfl, by rw [hid]; rfl⟩
  have hresponse :
      Version.eth66.encode ⟨some ⟨7, by decide⟩, ⟨.pooledTransactions, [.typed 1 []]⟩⟩ =
        .ok (0x0a, [0xC3, 0x07, 0xC1, 0x01]) :=
    Version.encode_withId_eq_ok_iff.mpr ⟨rfl, rfl, [0xC1, 0x01], rfl, by rw [hid]; rfl⟩
  have hkept : Message.KeptAs ⟨.pooledTransactions, [.typed 1 []]⟩
      ⟨.pooledTransactionsRaw, [⟨[0x01]⟩]⟩ :=
    Or.inr ⟨.pooledTransactions, [.typed 1 []], [⟨[0x01]⟩], rfl, rfl, .cons rfl .nil⟩
  exact converse_answered 1 (Dispatcher.empty.register .getPooledTransactions _) (by decide) rfl
    hrequest (by decide) hresponse (by decide) rfl (by decide) rfl (Or.inr hkept)

end Endpoint
end ChainWire
