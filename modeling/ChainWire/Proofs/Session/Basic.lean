import ChainWire.Proofs.Message.Keeping
import ChainWire.Session.Basic

/-!
# What sessions do

Sending and receiving have a handful of outcomes each.  `Endpoint.Sends` and
`Endpoint.Receives` list them, every one with the conditions under which it
comes about and with the endpoint that it leaves behind.  A request, a response
and a notification are sent like any packet, once their role is right.
-/

namespace ChainWire

open Header (payloadLimit)

namespace Channel

theorem receive_of_cons {c : Channel} {m : RawMessage} {rest : List RawMessage}
    (h : c.queue = m :: rest) : c.receive = .done (m, { c with queue := rest }) := by
  unfold receive
  rw [h]

theorem receive_of_nil {c : Channel} (h : c.queue = []) :
    c.receive = if c.senderOpen then .waiting else .fail .connectionClosed := by
  unfold receive
  rw [h]

end Channel

namespace Pipe

theorem receive_of_cons {p : Pipe} {m : RawMessage} {rest : List RawMessage}
    (h : p.incoming.queue = m :: rest) :
    p.receive = (.done m, { p with incoming := { p.incoming with queue := rest } }) := by
  unfold receive
  rw [Channel.receive_of_cons h]

theorem receive_of_nil {p : Pipe} (h : p.incoming.queue = []) :
    p.receive = (if p.incoming.senderOpen then .waiting else .fail .connectionClosed, p) := by
  unfold receive
  rw [Channel.receive_of_nil h]
  cases p.incoming.senderOpen <;> rfl

end Pipe

namespace Endpoint

/-!
## The endpoint afterwards
-/

def afterSending (m : RawMessage) (e : Endpoint) : Endpoint where
  session := { e.session with counters := e.session.counters.recordSent m.payload.length }
  pipe := { e.pipe with
    outgoing := { e.pipe.outgoing with queue := e.pipe.outgoing.queue ++ [m] } }

def afterTaking (rest : List RawMessage) (e : Endpoint) : Endpoint :=
  { e with pipe := { e.pipe with incoming := { e.pipe.incoming with queue := rest } } }

def counting (size : Nat) (e : Endpoint) : Endpoint :=
  { e with session :=
      { e.session with counters := e.session.counters.recordReceived size } }

def failing (f : Failure) (e : Endpoint) : Endpoint :=
  { e with session := e.session.recordFailure f }

/-!
## Sending
-/

/-- What becomes of a packet that is to be sent. -/
inductive Sends (e : Endpoint) (p : Packet) : Outcome Unit -> Endpoint -> Prop where
  | sent {m : RawMessage} (hencode : e.session.version.encode p = .ok (m.code, m.payload))
      (hsize : m.payload.length <= e.session.maxMessageSize)
      (hopen : e.pipe.outgoing.receiverOpen = true)
      (hroom : e.pipe.outgoing.queue.length < e.pipe.outgoing.capacity) :
      Sends e p (.done ()) (e.afterSending m)
  | unwritable {fault : EncodeFault} (hencode : e.session.version.encode p = .error fault) :
      Sends e p (.fail (.encode fault)) (e.failing .encode)
  | oversized {m : RawMessage} (hencode : e.session.version.encode p = .ok (m.code, m.payload))
      (hsize : e.session.maxMessageSize < m.payload.length) :
      Sends e p (.fail (.oversizedMessage m.payload.length e.session.maxMessageSize))
        (e.failing .oversized)
  | closed {m : RawMessage} (hencode : e.session.version.encode p = .ok (m.code, m.payload))
      (hsize : m.payload.length <= e.session.maxMessageSize)
      (hclosed : e.pipe.outgoing.receiverOpen = false) :
      Sends e p (.fail .connectionClosed) e
  | full {m : RawMessage} (hencode : e.session.version.encode p = .ok (m.code, m.payload))
      (hsize : m.payload.length <= e.session.maxMessageSize)
      (hopen : e.pipe.outgoing.receiverOpen = true)
      (hfull : e.pipe.outgoing.capacity <= e.pipe.outgoing.queue.length) :
      Sends e p .waiting e

theorem send_eq_of_room {p : Packet} {m : RawMessage} {e : Endpoint}
    (hencode : e.session.version.encode p = .ok (m.code, m.payload))
    (hsize : m.payload.length <= e.session.maxMessageSize)
    (hopen : e.pipe.outgoing.receiverOpen = true)
    (hroom : e.pipe.outgoing.queue.length < e.pipe.outgoing.capacity) :
    e.send p = (.done (), e.afterSending m) := by
  simp [send, hencode, Nat.not_lt.mpr hsize, Pipe.send, Channel.send, hopen, hroom, afterSending]

theorem sends_of_eq {p : Packet} {e e' : Endpoint} {outcome : Outcome Unit}
    (h : e.send p = (outcome, e')) : e.Sends p outcome e' := by
  cases hencode : e.session.version.encode p with
  | error fault =>
      have hsend : e.send p = (.fail (.encode fault), e.failing .encode) := by
        simp [send, hencode, failWith, failing]
      rw [hsend] at h
      cases h
      exact .unwritable hencode
  | ok out =>
      have hmessage : e.session.version.encode p =
          .ok ((RawMessage.mk out.1 out.2).code, (RawMessage.mk out.1 out.2).payload) := hencode
      by_cases hsize : e.session.maxMessageSize < out.2.length
      · have hsend : e.send p =
            (.fail (.oversizedMessage out.2.length e.session.maxMessageSize),
              e.failing .oversized) := by
          simp [send, hencode, hsize, failWith, failing]
        rw [hsend] at h
        cases h
        exact .oversized hmessage hsize
      · have hfits := Nat.le_of_not_lt hsize
        cases hopen : e.pipe.outgoing.receiverOpen with
        | false =>
            have hsend : e.send p = (.fail .connectionClosed, e) := by
              simp [send, hencode, hsize, Pipe.send, Channel.send, hopen]
            rw [hsend] at h
            cases h
            exact .closed hmessage hfits hopen
        | true =>
            by_cases hroom : e.pipe.outgoing.queue.length < e.pipe.outgoing.capacity
            · rw [send_eq_of_room hmessage hfits hopen hroom] at h
              cases h
              exact .sent hmessage hfits hopen hroom
            · have hsend : e.send p = (.waiting, e) := by
                simp [send, hencode, hsize, Pipe.send, Channel.send, hopen, hroom]
              rw [hsend] at h
              cases h
              exact .full hmessage hfits hopen (Nat.le_of_not_lt hroom)

/-!
## Receiving
-/

/-- What becomes of an attempt to receive a packet. -/
inductive Receives (e : Endpoint)
    (decode : Version -> Nat -> Bytes -> Except DecodeFault Packet) :
    Outcome Packet -> Endpoint -> Prop where
  | read {m : RawMessage} {rest : List RawMessage} {p : Packet}
      (hqueue : e.pipe.incoming.queue = m :: rest)
      (hsize : m.payload.length <= e.session.maxMessageSize)
      (hdecode : decode e.session.version m.code m.payload = .ok p) :
      Receives e decode (.done p) ((e.afterTaking rest).counting m.payload.length)
  | unreadable {m : RawMessage} {rest : List RawMessage} {fault : DecodeFault}
      (hqueue : e.pipe.incoming.queue = m :: rest)
      (hsize : m.payload.length <= e.session.maxMessageSize)
      (hdecode : decode e.session.version m.code m.payload = .error fault) :
      Receives e decode (.fail (.decode fault))
        (((e.afterTaking rest).counting m.payload.length).failing (failureOf fault))
  | oversized {m : RawMessage} {rest : List RawMessage}
      (hqueue : e.pipe.incoming.queue = m :: rest)
      (hsize : e.session.maxMessageSize < m.payload.length) :
      Receives e decode (.fail (.oversizedMessage m.payload.length e.session.maxMessageSize))
        ((e.afterTaking rest).failing .oversized)
  | empty (hqueue : e.pipe.incoming.queue = []) (hopen : e.pipe.incoming.senderOpen = true) :
      Receives e decode .waiting e
  | closed (hqueue : e.pipe.incoming.queue = [])
      (hclosed : e.pipe.incoming.senderOpen = false) :
      Receives e decode (.fail .connectionClosed) e

section Receiving

variable {decode : Version -> Nat -> Bytes -> Except DecodeFault Packet} {e e' : Endpoint}
  {m : RawMessage} {rest : List RawMessage}

theorem receiveBy_eq_of_read {p : Packet} (hqueue : e.pipe.incoming.queue = m :: rest)
    (hsize : m.payload.length <= e.session.maxMessageSize)
    (hdecode : decode e.session.version m.code m.payload = .ok p) :
    e.receiveBy decode = (.done p, (e.afterTaking rest).counting m.payload.length) := by
  simp [receiveBy, Pipe.receive_of_cons hqueue, Nat.not_lt.mpr hsize, hdecode, afterTaking,
    counting]

/-- A session reads what a session with its version and its limit has written. -/
theorem receive_eq_of_encode {p : Packet} (hqueue : e.pipe.incoming.queue = m :: rest)
    (hraw : p.kind.isRaw = false)
    (hencode : e.session.version.encode p = .ok (m.code, m.payload))
    (hsize : m.payload.length <= e.session.maxMessageSize)
    (hmax : e.session.maxMessageSize < payloadLimit) :
    e.receive = (.done p, (e.afterTaking rest).counting m.payload.length) :=
  receiveBy_eq_of_read hqueue hsize
    (Version.decode_eq_of_encode hraw hencode (Nat.lt_of_le_of_lt hsize hmax))

theorem receiveBy_eq_of_nil (hqueue : e.pipe.incoming.queue = []) :
    e.receiveBy decode =
      (if e.pipe.incoming.senderOpen then .waiting else .fail .connectionClosed, e) := by
  unfold receiveBy
  rw [Pipe.receive_of_nil hqueue]
  cases e.pipe.incoming.senderOpen <;> rfl

theorem receives_of_eq {outcome : Outcome Packet} (h : e.receiveBy decode = (outcome, e')) :
    e.Receives decode outcome e' := by
  cases hqueue : e.pipe.incoming.queue with
  | nil =>
      rw [receiveBy_eq_of_nil hqueue] at h
      cases hopen : e.pipe.incoming.senderOpen with
      | true =>
          rw [hopen] at h
          cases h
          exact .empty hqueue hopen
      | false =>
          rw [hopen] at h
          cases h
          exact .closed hqueue hopen
  | cons m rest =>
      by_cases hsize : e.session.maxMessageSize < m.payload.length
      · have hreceive : e.receiveBy decode =
            (.fail (.oversizedMessage m.payload.length e.session.maxMessageSize),
              (e.afterTaking rest).failing .oversized) := by
          simp [receiveBy, Pipe.receive_of_cons hqueue, hsize, failWith, failing, afterTaking]
        rw [hreceive] at h
        cases h
        exact .oversized hqueue hsize
      · have hfits := Nat.le_of_not_lt hsize
        cases hdecode : decode e.session.version m.code m.payload with
        | ok p =>
            rw [receiveBy_eq_of_read hqueue hfits hdecode] at h
            cases h
            exact .read hqueue hfits hdecode
        | error fault =>
            have hreceive : e.receiveBy decode =
                (.fail (.decode fault),
                  ((e.afterTaking rest).counting m.payload.length).failing
                    (failureOf fault)) := by
              simp [receiveBy, Pipe.receive_of_cons hqueue, hsize, hdecode, failWith, failing,
                afterTaking, counting]
            rw [hreceive] at h
            cases h
            exact .unreadable hqueue hfits hdecode

end Receiving

/-!
## Requests and answers
-/

section Asking

variable {e e' : Endpoint} {m : Message} {drawn : RequestId} {id : Option RequestId} {k : Kind}

theorem attachedId_eq_of_encode {code : Nat} {b : Bytes}
    (hencode : e.session.version.encode ⟨id, m⟩ = .ok (code, b))
    (hid : forall x, id = some x -> x = drawn) : e.attachedId m drawn = id := by
  rcases Version.encode_eq_ok_iff.mp hencode with ⟨f, _, hframing, _, hlays, _⟩
  rw [attachedId, show e.session.version.framing m.kind = some f from hframing]
  cases hlays with
  | bare =>
      rfl
  | withId =>
      rw [hid _ rfl]

theorem request_of_send (hrole : m.kind.role = .request) (hid : e.attachedId m drawn = id)
    (hsend : e.send ⟨id, m⟩ = (.done (), e')) : e.request m drawn = (.done id, e') := by
  simp only [request, if_pos hrole, hid, hsend, Outcome.map]

theorem receiveAnswer_of_done {p : Packet} (hreceive : e.receive = (.done p, e'))
    (hid : p.requestId = id) (hkind : k.isAnsweredBy p.kind = true) :
    e.receiveAnswer k id = (.done p, e') := by
  simp [receiveAnswer, hreceive, hid, hkind]

theorem receiveAnswer_of_waiting (hreceive : e.receive = (.waiting, e')) :
    e.receiveAnswer k id = (.waiting, e') := by
  rw [receiveAnswer, hreceive]

end Asking
end Endpoint
end ChainWire
