import ChainWire.Proofs.ItemType
import ChainWire.Proofs.Session.Accounting

/-!
# Sent or not

A message that is not sent leaves the pipe as it was and counts as one failure
at most.  A message that is sent is the one thing that was put onto the pipe,
and a relay with the version and the limit of the sender can read it.
-/

namespace ChainWire

open Header (payloadLimit)

namespace Message

theorem wellFormed_of_built {m : Message} (hbuilt : forall r, r ∈ m.rawItems -> r.Built)
    {e : Bytes} (he : m.encode = .ok e) (hlength : e.length < payloadLimit) : m.WellFormed := by
  intro r hr
  exact (hbuilt r hr).wellFormed (Nat.lt_of_le_of_lt (length_le_of_mem_rawItems he hr) hlength)

end Message

theorem Version.decodeRelay_of_built {v : Version} {p : Packet} {code : Nat} {b : Bytes}
    (hbuilt : forall r, r ∈ p.message.rawItems -> r.Built)
    (hencode : v.encode p = .ok (code, b)) (hlength : b.length < payloadLimit) :
    exists q, v.decodeRelay code b = .ok q ∧ q.requestId = p.requestId := by
  cases hraw : p.kind.isRaw with
  | false =>
      rcases decodeRelay_eq_of_encode hraw hencode hlength with ⟨kept, _, hread⟩
      exact ⟨_, hread, rfl⟩
  | true =>
      rcases encode_eq_ok_iff.mp hencode with ⟨f, e, _, he, hlays, _⟩
      have hitems := Message.wellFormed_of_built hbuilt he
        (Nat.lt_of_le_of_lt hlays.length_le hlength)
      exact ⟨p, (decode_of_encode hitems hencode hlength).2.2 (Kind.relayed_of_raw hraw), rfl⟩

/-- The pipe is as it was, nothing counts as sent, and at most one failure was counted. -/
structure Endpoint.Spares (e e' : Endpoint) (counted : Option Failure) : Prop where
  pipe_eq : e'.pipe = e.pipe
  sent_eq : e'.session.counters.sent = e.session.counters.sent
  failures_eq : forall sort, e'.session.counters.failures sort =
    e.session.counters.failures sort + if counted = some sort then 1 else 0

theorem Counters.failures_recordFailure (c : Counters) (f sort : Failure) :
    (c.recordFailure f).failures sort =
      c.failures sort + if some f = some sort then 1 else 0 := by
  cases f <;> cases sort <;> simp [recordFailure, failures]

theorem Endpoint.spares_self (e : Endpoint) : e.Spares e none :=
  ⟨rfl, rfl, fun _ => by simp⟩

theorem Endpoint.spares_failing (e : Endpoint) (f : Failure) : e.Spares (e.failing f) (some f) where
  pipe_eq := rfl
  sent_eq := by
    cases f <;> rfl
  failures_eq := Counters.failures_recordFailure _ f

namespace Call

/-!
## One call
-/

/-- Why a call does not send its message, and the sort of failure that it is counted as. -/
inductive Refusal (c : Call) (e : Endpoint) : SessionFault -> Option Failure -> Prop where
  /-- The message has another role than the call is for. -/
  | role (hattempt : c.attempt? e = none) : Refusal c e .unexpectedMessage none
  | rejected {p : Packet} {fault : EncodeFault} (hattempt : c.attempt? e = some p)
      (hencode : e.session.version.encode p = .error fault) :
      Refusal c e (.encode fault) (some .encode)
  | oversized {p : Packet} {m : RawMessage} (hattempt : c.attempt? e = some p)
      (hencode : e.session.version.encode p = .ok (m.code, m.payload))
      (hsize : e.session.maxMessageSize < m.payload.length) :
      Refusal c e (.oversizedMessage m.payload.length e.session.maxMessageSize) (some .oversized)
  | closed {p : Packet} {m : RawMessage} (hattempt : c.attempt? e = some p)
      (hencode : e.session.version.encode p = .ok (m.code, m.payload))
      (hsize : m.payload.length <= e.session.maxMessageSize)
      (hclosed : e.pipe.outgoing.receiverOpen = false) :
      Refusal c e .connectionClosed none

section Sending

variable {c : Call} {e : Endpoint} {m : Message} {p : Packet}

theorem perform_cases (hmessage : c.message? = some m) :
    (c.attempt? e = none ∧ c.perform e = (.refused .unexpectedMessage, e)) ∨
    (exists p, c.attempt? e = some p ∧ p.message = m ∧
      c.perform e = (.ofSending (fun _ => p) (e.send p).1, (e.send p).2)) := by
  cases c with
  | send p =>
      cases hmessage
      exact Or.inr ⟨p, rfl, rfl, rfl⟩
  | request m drawn =>
      cases hmessage
      by_cases hrole : m.kind.role = .request
      · refine Or.inr ⟨⟨e.attachedId m drawn, m⟩, if_pos hrole, rfl, ?_⟩
        rw [perform, Endpoint.request_eq_send hrole]
        dsimp only
        rw [Event.ofSending_map]
      · refine Or.inl ⟨if_neg hrole, ?_⟩
        rw [perform, Endpoint.request_of_other_role hrole]
        rfl
  | respond id m =>
      cases hmessage
      by_cases hrole : m.kind.role = .response
      · refine Or.inr ⟨⟨id, m⟩, if_pos hrole, rfl, ?_⟩
        rw [perform, Endpoint.respond, if_pos hrole]
      · refine Or.inl ⟨if_neg hrole, ?_⟩
        rw [perform, Endpoint.respond, if_neg hrole]
        rfl
  | notify m =>
      cases hmessage
      by_cases hrole : m.kind.role = .notification
      · refine Or.inr ⟨⟨none, m⟩, if_pos hrole, rfl, ?_⟩
        rw [perform, Endpoint.notify, if_pos hrole]
      · refine Or.inl ⟨if_neg hrole, ?_⟩
        rw [perform, Endpoint.notify, if_neg hrole]
        rfl
  | receive reading =>
      cases hmessage

theorem refusal_of_sends (hattempt : c.attempt? e = some p) {fault : SessionFault}
    {e' : Endpoint} (h : e.Sends p (.fail fault) e') :
    exists counted, c.Refusal e fault counted ∧ e.Spares e' counted := by
  cases h with
  | unwritable hencode =>
      exact ⟨_, .rejected hattempt hencode, e.spares_failing .encode⟩
  | oversized hencode hsize =>
      exact ⟨_, .oversized hattempt hencode hsize, e.spares_failing .oversized⟩
  | closed hencode hsize hclosed =>
      exact ⟨_, .closed hattempt hencode hsize hclosed, e.spares_self⟩

end Sending

/--
A call that is refused changes nothing about the pipe and the traffic that was
sent, and the one counter that grows, if any does, is that of its failure.  A
call that sends puts one message onto the pipe, within the limit of the
session, which a relay can read.
-/
theorem sent_or_refused (c : Call) (e : Endpoint) {m : Message} (hmessage : c.message? = some m) :
    (forall fault e', c.perform e = (.refused fault, e') ->
      exists counted, c.Refusal e fault counted ∧ e.Spares e' counted) ∧
    (forall p e', c.perform e = (.sent p, e') ->
      exists raw : RawMessage, p.message = m ∧ c.attempt? e = some p ∧
        e.session.version.encode p = .ok (raw.code, raw.payload) ∧
        e'.pipe = { e.pipe with
          outgoing := { e.pipe.outgoing with queue := e.pipe.outgoing.queue ++ [raw] } } ∧
        raw.payload.length <= e.session.maxMessageSize ∧
        ((forall r, r ∈ m.rawItems -> r.Built) -> e.session.maxMessageSize < payloadLimit ->
          exists q, e.session.version.decodeRelay raw.code raw.payload = .ok q ∧
            q.requestId = p.requestId)) ∧
    (forall e', c.perform e = (.waiting, e') -> e' = e) := by
  rcases perform_cases (e := e) hmessage with
    ⟨hattempt, hperform⟩ | ⟨p, hattempt, rfl, hperform⟩
  · rw [hperform]
    refine ⟨?_, ?_, ?_⟩
    · intro fault e' h
      cases h
      exact ⟨none, .role hattempt, e.spares_self⟩
    · intro p e' h
      cases h
    · intro e' h
      cases h
  · rw [hperform]
    have hsends : e.Sends p (e.send p).1 (e.send p).2 := Endpoint.sends_of_eq rfl
    generalize e.send p = result at hsends ⊢
    rcases result with ⟨outcome, after⟩
    refine ⟨?_, ?_, ?_⟩
    · intro fault e' h
      cases outcome with
      | fail fault' =>
          cases h
          exact refusal_of_sends hattempt hsends
      | done u | waiting =>
          cases h
    · intro q e' h
      cases hsends with
      | @sent raw hencode hsize =>
          cases h
          refine ⟨raw, rfl, hattempt, hencode, rfl, hsize, fun hbuilt hmax => ?_⟩
          exact Version.decodeRelay_of_built hbuilt hencode (Nat.lt_of_le_of_lt hsize hmax)
      | unwritable | oversized | closed | full =>
          cases h
    · intro e' h
      cases hsends with
      | full =>
          cases h
          rfl
      | sent | unwritable | oversized | closed =>
          cases h

/-- A fresh session that takes payloads of three bytes at most. -/
def narrowEndpoint : Endpoint := ⟨⟨.eth65, 3, .zero⟩, .empty 1⟩

/-- A reserved type, a payload that is too long, a request as a notification, and a response. -/
theorem sent_or_refused_narrowEndpoint :
    (exists e', (notify ⟨.transactions, [.typed 0x90 []]⟩).perform narrowEndpoint =
        (.refused (.encode (.invalidEnvelopeType 0x90)), e') ∧
      e'.pipe = narrowEndpoint.pipe ∧ e'.session.counters.failures .encode = 1) ∧
    (exists e', (notify ⟨.transactions, [.typed 1 [2, 3, 4]]⟩).perform narrowEndpoint =
        (.refused (.oversizedMessage 6 3), e') ∧
      e'.pipe = narrowEndpoint.pipe ∧ e'.session.counters.failures .oversized = 1) ∧
    (exists e', (notify ⟨.getBlockBodies, []⟩).perform narrowEndpoint =
        (.refused .unexpectedMessage, e') ∧
      e'.pipe = narrowEndpoint.pipe ∧ forall sort, e'.session.counters.failures sort = 0) ∧
    (exists e', (respond none ⟨.blockBodiesRaw, [⟨[0xC0]⟩]⟩).perform narrowEndpoint =
        (.sent ⟨none, ⟨.blockBodiesRaw, [⟨[0xC0]⟩]⟩⟩, e') ∧
      exists raw : RawMessage, e'.pipe.outgoing.queue = [raw] ∧
        exists q, Version.eth65.decodeRelay raw.code raw.payload = .ok q ∧
          q.requestId = none) := by
  refine ⟨⟨_, rfl, ?_⟩, ⟨_, rfl, ?_⟩, ⟨_, rfl, ?_⟩, ⟨_, rfl, ?_⟩⟩
  · rcases (sent_or_refused (notify ⟨.transactions, [.typed 0x90 []]⟩) narrowEndpoint
      rfl).1 _ _ rfl with ⟨counted, _, hspares⟩
    exact ⟨hspares.pipe_eq, rfl⟩
  · rcases (sent_or_refused (notify ⟨.transactions, [.typed 1 [2, 3, 4]]⟩) narrowEndpoint
      rfl).1 _ _ rfl with ⟨counted, _, hspares⟩
    exact ⟨hspares.pipe_eq, rfl⟩
  · rcases (sent_or_refused (notify ⟨.getBlockBodies, []⟩) narrowEndpoint rfl).1 _ _ rfl with
      ⟨counted, hrefusal, hspares⟩
    cases hrefusal with
    | role =>
        refine ⟨hspares.pipe_eq, fun sort => ?_⟩
        rw [hspares.failures_eq]
        cases sort <;> rfl
  · rcases (sent_or_refused (respond none ⟨.blockBodiesRaw, [⟨[0xC0]⟩]⟩)
      narrowEndpoint rfl).2.1 _ _ rfl with ⟨raw, _, _, _, hpipe, _, hread⟩
    have hbuilt (r : RawItem) (hr : r ∈ [RawItem.mk [0xC0]]) : r.Built := by
      have hbytes : RawItem.ofBytes [0xC0] = .ok r := by
        rw [List.mem_singleton.mp hr]
        rfl
      exact .ofBytes hbytes
    exact ⟨raw, congrArg (fun pipe => pipe.outgoing.queue) hpipe, hread hbuilt (by decide)⟩

end Call
end ChainWire
