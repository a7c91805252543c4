import ChainWire.Proofs.Session.Basic
import ChainWire.Session.Dialogue

/-!
# Exchanges

An exchange sends a request and takes one message, the first that arrives.  It
comes to a response only if this message is the answer to the request; whatever
stands behind it in the queue is left for later.

While an exchange waits, the other end is free to do to the pipe what it likes.
An exchange for which nothing more arrives is the case of an other end that does
nothing, and a dialogue is the case of one that follows a script.
-/

namespace ChainWire

namespace Version

variable {v : Version} {k : Kind} {code : Nat} {b : Bytes} {p : Packet}

theorem kind_of_decodeAs (h : v.decodeAs k b = .ok p) : p.kind = k := by
  rcases decodeAs_eq_ok_iff.mp h with ⟨f, _, hexact⟩
  rcases Framing.lays_of_decode hexact with ⟨e, _, _, hbody⟩
  rcases Message.decode_eq_ok_iff.mp hbody with ⟨body, _, hmessage⟩
  rw [Packet.kind, hmessage]

theorem not_raw_of_decode (h : v.decode code b = .ok p) : p.kind.isRaw = false := by
  rcases Outcome.bind_eq_ok_iff.mp h with ⟨k, hkind, hread⟩
  rw [kind_of_decodeAs hread]
  exact (kindOfCode_eq_ok hkind).1

theorem framing_of_request (hrole : k.role = .request) (hsupports : v.supports k = true) :
    v.framing k = some (if v = .eth65 then .bare else .withId) := by
  apply framing_eq_some_iff.mpr
  constructor
  · exact hsupports
  · rw [wraps, hrole]
    cases v <;> rfl

end Version

theorem Kind.isAnsweredBy_iff {k a : Kind} (hraw : a.isRaw = false) :
    k.isAnsweredBy a = true <-> k.answer? = some a := by
  rw [isAnsweredBy, materialized_of_not_raw hraw, beq_iff_eq]

theorem Outcome.map_eq_done_iff {α β : Type} {f : α -> β} {o : Outcome α} {y : β} :
    o.map f = .done y <-> exists x, o = .done x ∧ f x = y := by
  cases o <;> simp [map]

def Partner.whileAwaited (p : Partner) (pipe : Pipe) : Pipe :=
  if pipe.receive.1 = .waiting then (p.turn pipe.flip).2.flip else pipe

namespace Endpoint

/-!
## Asking
-/

section Asking

variable {e e' : Endpoint} {p : Packet} {m : Message} {drawn : RequestId}
  {id : Option RequestId}

theorem Sends.pipe_eq {outcome : Outcome Unit} (h : e.Sends p outcome e')
    (hdone : outcome ≠ .done ()) : e'.pipe = e.pipe := by
  cases h with
  | sent =>
      exact absurd rfl hdone
  | unwritable | oversized | closed | full =>
      rfl

theorem Sends.terms_eq {outcome : Outcome Unit} (h : e.Sends p outcome e') :
    e'.session.version = e.session.version ∧
      e'.session.maxMessageSize = e.session.maxMessageSize := by
  cases h <;> exact ⟨rfl, rfl⟩

theorem supports_of_send (h : e.send p = (.done (), e')) :
    e.session.version.supports p.kind = true := by
  cases sends_of_eq h with
  | sent hencode _ _ _ =>
      rcases Version.encode_eq_ok_iff.mp hencode with ⟨f, _, hframing, _⟩
      exact (Version.framing_eq_some_iff.mp hframing).1

theorem attachedId_eq (hrole : m.kind.role = .request)
    (hsupports : e.session.version.supports m.kind = true) :
    e.attachedId m drawn = if e.session.version = .eth65 then none else some drawn := by
  rw [attachedId, Version.framing_of_request hrole hsupports]
  by_cases hversion : e.session.version = .eth65
  · rw [if_pos hversion, if_pos hversion]
  · rw [if_neg hversion, if_neg hversion]

theorem request_eq_send (hrole : m.kind.role = .request) :
    e.request m drawn =
      ((e.send ⟨e.attachedId m drawn, m⟩).1.map fun _ => e.attachedId m drawn,
        (e.send ⟨e.attachedId m drawn, m⟩).2) := by
  rw [request, if_pos hrole]

theorem request_of_other_role (hrole : m.kind.role ≠ .request) :
    e.request m drawn = (.fail .unexpectedMessage, e) := by
  rw [request, if_neg hrole]

theorem request_eq_done_iff :
    e.request m drawn = (.done id, e') <->
      m.kind.role = .request ∧
        id = (if e.session.version = .eth65 then none else some drawn) ∧
        e.send ⟨id, m⟩ = (.done (), e') := by
  constructor
  · intro h
    by_cases hrole : m.kind.role = .request
    · rw [request_eq_send hrole, Prod.mk.injEq, Outcome.map_eq_done_iff] at h
      rcases h with ⟨⟨u, hdone, hid⟩, hafter⟩
      subst hid
      have hsend : e.send ⟨e.attachedId m drawn, m⟩ = (.done (), e') :=
        Prod.ext hdone hafter
      exact ⟨hrole, attachedId_eq hrole (supports_of_send hsend), hsend⟩
    · rw [request_of_other_role hrole] at h
      cases h
  · intro h
    rcases h with ⟨hrole, hid, hsend⟩
    have hattached : e.attachedId m drawn = id := by
      rw [hid]
      exact attachedId_eq hrole (supports_of_send hsend)
    exact request_of_send hrole hattached hsend

theorem request_pipe_eq (h : forall id, (e.request m drawn).1 ≠ .done id) :
    (e.request m drawn).2.pipe = e.pipe := by
  by_cases hrole : m.kind.role = .request
  · rw [request_eq_send hrole] at h ⊢
    have hsends : e.Sends ⟨e.attachedId m drawn, m⟩ _ _ := sends_of_eq rfl
    apply hsends.pipe_eq
    intro hdone
    exact h _ (Outcome.map_eq_done_iff.mpr ⟨(), hdone, rfl⟩)
  · rw [request_of_other_role hrole]

end Asking

/-!
## Taking the answer
-/

section Answering

variable {e : Endpoint} {k : Kind} {id : Option RequestId} {r : Packet} {m : RawMessage}
  {rest : List RawMessage}

theorem receive_eq_done_iff :
    e.receive.1 = .done r <->
      exists m rest, e.pipe.incoming.queue = m :: rest ∧
        m.payload.length <= e.session.maxMessageSize ∧
        e.session.version.decode m.code m.payload = .ok r := by
  constructor
  · intro h
    have hreceive : e.receive = (.done r, e.receive.2) := Prod.ext h rfl
    generalize e.receive.2 = e' at hreceive
    cases receives_of_eq hreceive with
    | read hqueue hsize hdecode =>
        exact ⟨_, _, hqueue, hsize, hdecode⟩
  · intro h
    rcases h with ⟨m, rest, hqueue, hsize, hdecode⟩
    rw [receive, receiveBy_eq_of_read hqueue hsize hdecode]

theorem Receives.pipe_eq {decode : Version -> Nat -> Bytes -> Except DecodeFault Packet}
    {outcome : Outcome Packet} {e' : Endpoint} (h : e.Receives decode outcome e')
    (hqueue : e.pipe.incoming.queue = m :: rest) :
    e'.pipe = { e.pipe with incoming := { e.pipe.incoming with queue := rest } } := by
  cases h with
  | read hq | unreadable hq | oversized hq =>
      cases hqueue.symm.trans hq
      rfl
  | closed hq | empty hq =>
      cases hqueue.symm.trans hq

theorem receive_of_waiting (h : e.pipe.receive.1 = .waiting) : e.receive = (.waiting, e) := by
  cases hpipe : e.pipe.receive with
  | mk outcome pipe =>
      rw [hpipe] at h
      cases h
      rw [receive, receiveBy, hpipe]

theorem receive_eq_waiting_iff : e.receive.1 = .waiting <-> e.pipe.receive.1 = .waiting := by
  constructor
  · intro h
    have hreceive : e.receive = (.waiting, e.receive.2) := Prod.ext h rfl
    generalize e.receive.2 = e' at hreceive
    cases receives_of_eq hreceive with
    | empty hqueue hopen =>
        rw [Pipe.receive_of_nil hqueue, hopen]
        rfl
  · intro h
    rw [receive_of_waiting h]

/-- What a packet is to whoever asked: the answer, or out of place. -/
def accept (k : Kind) (id : Option RequestId) : Outcome Packet -> Outcome Packet
  | .done r =>
      if r.requestId = id && k.isAnsweredBy r.kind then .done r else .fail .unexpectedMessage
  | .fail f => .fail f
  | .waiting => .waiting

theorem receiveAnswer_eq (k : Kind) (id : Option RequestId) (e : Endpoint) :
    e.receiveAnswer k id = (accept k id e.receive.1, e.receive.2) := by
  unfold receiveAnswer
  cases e.receive with
  | mk outcome e' =>
      cases outcome with
      | done p =>
          dsimp only [accept]
          split <;> rfl
      | fail f =>
          rfl
      | waiting =>
          rfl

theorem accept_eq_done_iff {outcome : Outcome Packet} :
    accept k id outcome = .done r <->
      outcome = .done r ∧ r.requestId = id ∧ k.isAnsweredBy r.kind = true := by
  constructor
  · intro h
    unfold accept at h
    split at h
    · split at h
      · rename_i haccepts
        cases h
        exact ⟨rfl, by simpa using haccepts⟩
      · cases h
    · cases h
    · cases h
  · intro h
    rcases h with ⟨hdone, hid, hkind⟩
    rw [hdone, accept, hid, hkind]
    simp

theorem accept_eq_waiting_iff {outcome : Outcome Packet} :
    accept k id outcome = .waiting <-> outcome = .waiting := by
  unfold accept
  split
  · split <;> simp
  · simp
  · simp

theorem receiveAnswer_eq_done_iff :
    (e.receiveAnswer k id).1 = .done r <->
      exists m rest, e.pipe.incoming.queue = m :: rest ∧
        m.payload.length <= e.session.maxMessageSize ∧
        e.session.version.decode m.code m.payload = .ok r ∧
        r.requestId = id ∧ k.answer? = some r.kind := by
  rw [receiveAnswer_eq, accept_eq_done_iff, receive_eq_done_iff]
  constructor
  · intro h
    rcases h with ⟨⟨m, rest, hqueue, hsize, hdecode⟩, hid, hkind⟩
    have hanswer := (Kind.isAnsweredBy_iff (Version.not_raw_of_decode hdecode)).mp hkind
    exact ⟨m, rest, hqueue, hsize, hdecode, hid, hanswer⟩
  · intro h
    rcases h with ⟨m, rest, hqueue, hsize, hdecode, hid, hanswer⟩
    have hkind := (Kind.isAnsweredBy_iff (Version.not_raw_of_decode hdecode)).mpr hanswer
    exact ⟨⟨m, rest, hqueue, hsize, hdecode⟩, hid, hkind⟩

end Answering

/-!
## Asking and taking the answer
-/

section Steps

variable {σ : Type} {k : Kind} {ask : σ -> Outcome (Option RequestId) × σ}
  {take : Option RequestId -> σ -> Outcome Packet × σ} {s s' : σ} {id : Option RequestId}
  {r : Packet}

/-- Only the end of the time stands between an exchange and the attempt to take its response. -/
theorem exchangeBy_of_sent (h : ask s = (.done id, s')) :
    exchangeBy k ask take s =
      (match (take id s').1 with
        | .waiting => .fail (.responseTimeout k)
        | outcome => outcome,
      (take id s').2) := by
  rw [exchangeBy, h]
  dsimp only
  rcases take id s' with ⟨outcome, last⟩
  cases outcome <;> rfl

theorem exchangeBy_of_refused {f : SessionFault} (h : ask s = (.fail f, s')) :
    exchangeBy k ask take s = (.fail f, s') := by
  rw [exchangeBy, h]

theorem exchangeBy_of_waiting (h : ask s = (.waiting, s')) :
    exchangeBy k ask take s = (.waiting, s') := by
  rw [exchangeBy, h]

theorem exchangeBy_snd_of_not_sent (h : forall id, (ask s).1 ≠ .done id) :
    (exchangeBy k ask take s).2 = (ask s).2 := by
  rcases hask : ask s with ⟨outcome, after⟩
  cases outcome with
  | done id =>
      exact absurd (congrArg Prod.fst hask) (h id)
  | fail f =>
      rw [exchangeBy_of_refused hask]
  | waiting =>
      rw [exchangeBy_of_waiting hask]

theorem exchangeBy_eq_done_iff :
    (exchangeBy k ask take s).1 = .done r <->
      exists id sent, ask s = (.done id, sent) ∧ (take id sent).1 = .done r := by
  rcases hask : ask s with ⟨outcome, sent⟩
  cases outcome with
  | fail f =>
      rw [exchangeBy_of_refused hask]
      simp
  | waiting =>
      rw [exchangeBy_of_waiting hask]
      simp
  | done id =>
      rw [exchangeBy_of_sent hask]
      cases htake : (take id sent).1 <;> simp [htake]

end Steps

def changing (change : Pipe -> Pipe) (e : Endpoint) : Endpoint :=
  { e with pipe := change e.pipe }

/-- An exchange during which the other end acts: after the request, and before a response is
taken. -/
def exchangeWhile (change : Pipe -> Pipe) (m : Message) (drawn : RequestId) :
    Endpoint -> Outcome Packet × Endpoint :=
  exchangeBy m.kind (request m drawn) fun id e => (e.changing change).receiveAnswer m.kind id

section Exchanging

variable {e e' : Endpoint} {m : Message} {drawn : RequestId} {id : Option RequestId}
  {change : Pipe -> Pipe}

theorem exchangeWhile_id (m : Message) (drawn : RequestId) (e : Endpoint) :
    e.exchangeWhile (fun pipe => pipe) m drawn = e.exchange m drawn := rfl

theorem exchangeWhile_snd_of_sent (h : e.request m drawn = (.done id, e')) :
    (e.exchangeWhile change m drawn).2 = (e'.changing change).receive.2 := by
  rw [exchangeWhile, exchangeBy_of_sent h, receiveAnswer_eq]

theorem exchangeWhile_snd_of_not_sent (h : forall id, (e.request m drawn).1 ≠ .done id) :
    (e.exchangeWhile change m drawn).2 = (e.request m drawn).2 :=
  exchangeBy_snd_of_not_sent h

section Partners

variable {α : Type} {op : Endpoint -> Outcome α × Endpoint} {p : Partner}

theorem besidePartner_of_waiting (h : op e = (.waiting, e')) :
    besidePartner op (e, p) =
      ((op (e'.yieldTo p).1).1, (op (e'.yieldTo p).1).2, (e'.yieldTo p).2) := by
  rw [besidePartner, h]

theorem besidePartner_of_not_waiting (h : (op e).1 ≠ .waiting) :
    besidePartner op (e, p) = ((op e).1, (op e).2, p) := by
  rw [besidePartner]
  rcases hop : op e with ⟨outcome, after⟩
  rw [hop] at h
  cases outcome with
  | waiting =>
      exact absurd rfl h
  | done x | fail f =>
      rfl

end Partners

/-- A dialogue is an exchange during which the partner takes its turn, unless a message is there
already. -/
theorem exchangeWhile_eq_converse (p : Partner) (h : (e.request m drawn).1 ≠ .waiting) :
    e.exchangeWhile p.whileAwaited m drawn =
      ((e.converse m drawn p).1, (e.converse m drawn p).2.1) := by
  have hask : besidePartner (request m drawn) (e, p) = _ := besidePartner_of_not_waiting h
  rw [converse, exchangeWhile]
  rcases hrequest : e.request m drawn with ⟨outcome, after⟩
  rw [hrequest] at h hask
  cases outcome with
  | waiting =>
      exact absurd rfl h
  | fail f =>
      rw [exchangeBy_of_refused hask, exchangeBy_of_refused hrequest]
  | done id =>
      rw [exchangeBy_of_sent hask, exchangeBy_of_sent hrequest]
      by_cases hwaiting : after.pipe.receive.1 = .waiting
      · have hchange : after.changing p.whileAwaited = (after.yieldTo p).1 := by
          rw [changing, Partner.whileAwaited, if_pos hwaiting]
          rfl
        have hanswer : after.receiveAnswer m.kind id = (.waiting, after) :=
          receiveAnswer_of_waiting (receive_of_waiting hwaiting)
        rw [besidePartner_of_waiting hanswer, hchange]
      · have hchange : after.changing p.whileAwaited = after := by
          rw [changing, Partner.whileAwaited, if_neg hwaiting]
        have hanswer : (after.receiveAnswer m.kind id).1 ≠ .waiting := by
          rw [receiveAnswer_eq, Ne, accept_eq_waiting_iff, receive_eq_waiting_iff]
          exact hwaiting
        rw [besidePartner_of_not_waiting hanswer, hchange]

end Exchanging

/-- An exchange comes to a response exactly if its request is sent and the first message that
arrives is the answer to it.  If the request is sent, it takes this message and no other,
whatever becomes of it; if not, it takes none. -/
theorem exchange_takes_answer (e : Endpoint) (m : Message) (drawn : RequestId)
    (change : Pipe -> Pipe) :
    let id := if e.session.version = .eth65 then none else some drawn
    e.exchange m drawn = e.exchangeWhile (fun pipe => pipe) m drawn ∧
    (forall r, (e.exchangeWhile change m drawn).1 = .done r <->
      m.kind.role = .request ∧ exists sent raw rest, e.send ⟨id, m⟩ = (.done (), sent) ∧
        (change sent.pipe).incoming.queue = raw :: rest ∧
        raw.payload.length <= e.session.maxMessageSize ∧
        e.session.version.decode raw.code raw.payload = .ok r ∧
        r.requestId = id ∧ m.kind.answer? = some r.kind) ∧
    (forall sent raw rest, m.kind.role = .request -> e.send ⟨id, m⟩ = (.done (), sent) ->
      (change sent.pipe).incoming.queue = raw :: rest ->
      (e.exchangeWhile change m drawn).2.pipe =
        { change sent.pipe with incoming := { (change sent.pipe).incoming with queue := rest } }) ∧
    ((m.kind.role = .request -> (e.send ⟨id, m⟩).1 ≠ .done ()) ->
      (e.exchangeWhile change m drawn).2.pipe = e.pipe) := by
  intro id
  refine ⟨rfl, ?_, ?_, ?_⟩
  · intro r
    rw [exchangeWhile, exchangeBy_eq_done_iff]
    constructor
    · intro h
      rcases h with ⟨i, sent, hrequest, hanswer⟩
      rcases request_eq_done_iff.mp hrequest with ⟨hrole, hid, hsend⟩
      subst hid
      rcases (sends_of_eq hsend).terms_eq with ⟨hversion, hmax⟩
      rcases receiveAnswer_eq_done_iff.mp hanswer with
        ⟨raw, rest, hqueue, hsize, hdecode, hanswered⟩
      refine ⟨hrole, sent, raw, rest, hsend, hqueue, Nat.le_trans hsize (Nat.le_of_eq hmax), ?_,
        hanswered⟩
      rw [← hversion]
      exact hdecode
    · intro h
      rcases h with ⟨hrole, sent, raw, rest, hsend, hqueue, hsize, hdecode, hanswered⟩
      rcases (sends_of_eq hsend).terms_eq with ⟨hversion, hmax⟩
      refine ⟨id, sent, request_eq_done_iff.mpr ⟨hrole, rfl, hsend⟩, ?_⟩
      apply receiveAnswer_eq_done_iff.mpr
      refine ⟨raw, rest, hqueue, Nat.le_trans hsize (Nat.le_of_eq hmax.symm), ?_, hanswered⟩
      rw [← hversion] at hdecode
      exact hdecode
  · intro sent raw rest hrole hsend hqueue
    have hrequest : e.request m drawn = (.done id, sent) :=
      request_eq_done_iff.mpr ⟨hrole, rfl, hsend⟩
    have hreceives : (sent.changing change).Receives Version.decode _ _ := receives_of_eq rfl
    rw [exchangeWhile_snd_of_sent hrequest]
    exact hreceives.pipe_eq hqueue
  · intro hunsent
    have hrequest : forall i, (e.request m drawn).1 ≠ .done i := by
      intro i hdone
      rcases request_eq_done_iff.mp (Prod.ext hdone rfl : e.request m drawn = (.done i, _)) with
        ⟨hrole, hid, hsend⟩
      rw [hid] at hsend
      exact hunsent hrole (congrArg Prod.fst hsend)
    rw [exchangeWhile_snd_of_not_sent hrequest]
    exact request_pipe_eq hrequest

/-- The answer arrives in front of a message that nobody could read. -/
theorem exchange_takes_answer_pooled :
    let arriving : Pipe -> Pipe := fun pipe =>
      { pipe with incoming := { pipe.incoming with
        queue := [⟨0x0a, [0xC3, 0x07, 0xC1, 0x01]⟩, ⟨0x42, [0xFF]⟩] } }
    let result := exchangeWhile arriving ⟨.getPooledTransactions, []⟩ ⟨7, by decide⟩
      ⟨⟨.eth66, 1024, .zero⟩, .empty 1⟩
    result.1 = .done ⟨some ⟨7, by decide⟩, ⟨.pooledTransactions, [.typed 1 []]⟩⟩ ∧
      result.2.pipe.incoming.queue = [⟨0x42, [0xFF]⟩] ∧
      (exchangeWhile arriving ⟨.transactions, []⟩ ⟨7, by decide⟩
        ⟨⟨.eth66, 1024, .zero⟩, .empty 1⟩).2.pipe = .empty 1 := by
  intro arriving result
  let asker : Endpoint := ⟨⟨.eth66, 1024, .zero⟩, .empty 1⟩
  have hid : (⟨7, by decide⟩ : RequestId).encode = [0x07] :=
    Uint.encode_of_lt _ (by decide) (by decide)
  have hencode : Version.eth66.encode ⟨some ⟨7, by decide⟩, ⟨.getPooledTransactions, []⟩⟩ =
      .ok (0x09, [0xC2, 0x07, 0xC0]) :=
    Version.encode_withId_eq_ok_iff.mpr ⟨rfl, rfl, [0xC0], rfl, by rw [hid]; rfl⟩
  have hsend : asker.send ⟨some ⟨7, by decide⟩, ⟨.getPooledTransactions, []⟩⟩ =
      (.done (), asker.afterSending ⟨0x09, [0xC2, 0x07, 0xC0]⟩) :=
    send_eq_of_room (m := ⟨0x09, [0xC2, 0x07, 0xC0]⟩) hencode (by decide) rfl (by decide)
  rcases exchange_takes_answer asker ⟨.getPooledTransactions, []⟩ ⟨7, by decide⟩ arriving with
    ⟨_, hanswer, htakes, _⟩
  rcases exchange_takes_answer asker ⟨.transactions, []⟩ ⟨7, by decide⟩ arriving with
    ⟨_, _, _, hunsent⟩
  refine ⟨?_, ?_, ?_⟩
  · exact (hanswer _).mpr ⟨rfl, _, _, _, hsend, rfl, by decide, rfl, rfl, rfl⟩
  · exact congrArg (fun pipe => pipe.incoming.queue) (htakes _ _ _ rfl hsend rfl)
  · exact hunsent fun hrole => by cases hrole

end Endpoint
end ChainWire
