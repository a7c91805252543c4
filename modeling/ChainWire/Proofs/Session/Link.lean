import ChainWire.Proofs.Session.Basic

/-!
# Links

Two sessions at the two ends of one pipe, and what they do in any order.  A
schedule says who acts when; running it gives the events, one for each act.

Operations that have to wait change nothing.  To go on waiting for one is to
try it again later, so schedules cover operations that block and are resumed.
-/

namespace ChainWire

inductive Side where
  | left
  | right
deriving DecidableEq, Repr

namespace Side

def other : Side -> Side
  | left => right
  | right => left

@[simp] theorem other_other (s : Side) : s.other.other = s := by
  cases s <;> rfl

@[simp] theorem other_ne (s : Side) : s.other ≠ s := by
  cases s <;> decide

theorem eq_or_eq_other (s t : Side) : t = s ∨ t = s.other := by
  cases s <;> cases t <;> decide

end Side

/-!
## Readings
-/

/-- How a session reads what it receives: with all items, or as a relay does. -/
inductive Reading where
  | entire
  | relayed
deriving DecidableEq, Repr

namespace Reading

def decode : Reading -> Version -> Nat -> Bytes -> Except DecodeFault Packet
  | entire => Version.decode
  | relayed => Version.decodeRelay

def receive : Reading -> Endpoint -> Outcome Packet × Endpoint
  | entire => Endpoint.receive
  | relayed => Endpoint.receiveRelay

def Gives : Reading -> Packet -> Packet -> Prop
  | entire, p, q => q = p
  | relayed, p, q => q.requestId = p.requestId ∧ p.message.KeptAs q.message

theorem receive_eq (reading : Reading) (e : Endpoint) :
    reading.receive e = e.receiveBy reading.decode := by
  cases reading <;> rfl

theorem decode_eq_of_encode (reading : Reading) {v : Version} {p : Packet} {code : Nat}
    {b : Bytes} (hraw : p.kind.isRaw = false) (hencode : v.encode p = .ok (code, b))
    (hlength : b.length < Header.payloadLimit) :
    exists q, reading.Gives p q ∧ reading.decode v code b = .ok q := by
  cases reading with
  | entire =>
      exact ⟨p, rfl, Version.decode_eq_of_encode hraw hencode hlength⟩
  | relayed =>
      rcases Version.decodeRelay_eq_of_encode hraw hencode hlength with ⟨kept, hkept, hread⟩
      exact ⟨⟨p.requestId, kept⟩, ⟨rfl, hkept⟩, hread⟩

end Reading

/-!
## Events
-/

/-- A message that was taken off the pipe, and what the receiver made of it. -/
structure Taking where
  message : RawMessage
  reading : Reading
  outcome : Outcome Packet

inductive Event where
  | sent (packet : Packet)
  | taken (taking : Taking)
  | refused (fault : SessionFault)
  | waiting
  | dropped
  /-- The session is gone, so nothing was done. -/
  | absent

namespace Event

def sent? : Event -> Option Packet
  | sent p => some p
  | _ => none

def taken? : Event -> Option Taking
  | taken t => some t
  | _ => none

theorem taken?_sent (p : Packet) : (sent p).taken? = none := rfl

theorem sent?_taken (t : Taking) : (taken t).sent? = none := rfl

def ofSending {α : Type} (packet : α -> Packet) : Outcome α -> Event
  | .done x => sent (packet x)
  | .fail fault => refused fault
  | .waiting => waiting

def ofTaking (reading : Reading) (outcome : Outcome Packet) : Outcome RawMessage -> Event
  | .done m => taken ⟨m, reading, outcome⟩
  | .fail fault => refused fault
  | .waiting => waiting

theorem ofSending_map {α β : Type} (packet : β -> Packet) (f : α -> β) (outcome : Outcome α) :
    ofSending packet (outcome.map f) = ofSending (fun x => packet (f x)) outcome := by
  cases outcome <;> rfl

end Event

/-!
## Calls
-/

inductive Call where
  | send (packet : Packet)
  | request (message : Message) (drawn : RequestId)
  | respond (id : Option RequestId) (message : Message)
  | notify (message : Message)
  | receive (reading : Reading)

namespace Call

def message? : Call -> Option Message
  | send p => some p.message
  | request m _ => some m
  | respond _ m => some m
  | notify m => some m
  | receive _ => none

def perform (c : Call) (e : Endpoint) : Event × Endpoint :=
  match c with
  | send p =>
      let (outcome, e') := e.send p
      (.ofSending (fun _ => p) outcome, e')
  | request m drawn =>
      let (outcome, e') := e.request m drawn
      (.ofSending (fun id => ⟨id, m⟩) outcome, e')
  | respond id m =>
      let (outcome, e') := e.respond id m
      (.ofSending (fun _ => ⟨id, m⟩) outcome, e')
  | notify m =>
      let (outcome, e') := e.notify m
      (.ofSending (fun _ => ⟨none, m⟩) outcome, e')
  | receive reading =>
      let (outcome, e') := reading.receive e
      (.ofTaking reading outcome e.pipe.receive.1, e')

/-- What a call can come to, and the endpoint that it leaves behind. -/
inductive Moves (c : Call) (e : Endpoint) : Event -> Endpoint -> Prop where
  | sent {p : Packet} {e' : Endpoint} (hmessage : c.message? = some p.message)
      (hsends : e.Sends p (.done ()) e') : Moves c e (.sent p) e'
  | received {reading : Reading} (hcall : c = receive reading) :
      Moves c e (.ofTaking reading (reading.receive e).1 e.pipe.receive.1) (reading.receive e).2
  | unsent {event : Event} {e' : Endpoint} (hsent : event.sent? = none)
      (htaken : event.taken? = none) (hpipe : e'.pipe = e.pipe)
      (hversion : e'.session.version = e.session.version)
      (hmax : e'.session.maxMessageSize = e.session.maxMessageSize) : Moves c e event e'

section Moving

variable {c : Call} {e e' : Endpoint} {p : Packet}

theorem moves_of_sends {outcome : Outcome Unit} (hmessage : c.message? = some p.message)
    (h : e.Sends p outcome e') : c.Moves e (.ofSending (fun _ => p) outcome) e' := by
  cases outcome with
  | done u =>
      exact .sent hmessage h
  | fail fault =>
      cases h <;> exact .unsent rfl rfl rfl rfl rfl
  | waiting =>
      cases h
      exact .unsent rfl rfl rfl rfl rfl

theorem moves_of_send (hmessage : c.message? = some p.message) :
    c.Moves e (.ofSending (fun _ => p) (e.send p).1) (e.send p).2 :=
  moves_of_sends hmessage (Endpoint.sends_of_eq rfl)

theorem moves_of_refused {α : Type} (packet : α -> Packet) (fault : SessionFault) :
    c.Moves e (.ofSending packet (.fail fault)) e :=
  .unsent rfl rfl rfl rfl rfl

end Moving

theorem perform_moves (c : Call) (e : Endpoint) : c.Moves e (c.perform e).1 (c.perform e).2 := by
  cases c with
  | send p =>
      exact moves_of_send rfl
  | request m drawn =>
      by_cases hrole : m.kind.role = .request
      · simp only [perform, Endpoint.request, hrole, if_true, Event.ofSending_map]
        exact moves_of_send rfl
      · simp only [perform, Endpoint.request, hrole, if_false]
        exact moves_of_refused _ _
  | respond id m =>
      by_cases hrole : m.kind.role = .response
      · simp only [perform, Endpoint.respond, hrole, if_true]
        exact moves_of_send rfl
      · simp only [perform, Endpoint.respond, hrole, if_false]
        exact moves_of_refused _ _
  | notify m =>
      by_cases hrole : m.kind.role = .notification
      · simp only [perform, Endpoint.notify, hrole, if_true]
        exact moves_of_send rfl
      · simp only [perform, Endpoint.notify, hrole, if_false]
        exact moves_of_refused _ _
  | receive reading =>
      exact .received rfl

end Call

/-!
## Schedules
-/

inductive Act where
  | call (call : Call)
  | drop

/-- Whether the act sends nothing that was kept unread. -/
def Act.Materialized : Act -> Prop
  | .call c => forall m, c.message? = some m -> m.kind.isRaw = false
  | .drop => True

/-- The sessions that are still there, and what each side has sent that is on its way. -/
structure Link where
  session : Side -> Option Session
  channel : Side -> Channel

namespace Link

def fresh (session : Session) (capacity : Nat) : Link where
  session _ := some session
  channel _ := .empty capacity

def pipe (l : Link) (s : Side) : Pipe := ⟨l.channel s, l.channel s.other⟩

def put (l : Link) (s : Side) (session : Option Session) (p : Pipe) : Link where
  session t := if t = s then session else l.session t
  channel t := if t = s then p.outgoing else p.incoming

@[simp] theorem put_self (l : Link) (s : Side) : l.put s (l.session s) (l.pipe s) = l := by
  rcases l with ⟨session, channel⟩
  have hsession : (fun t => if t = s then session s else session t) = session := by
    funext t
    split <;> simp_all
  have hchannel : (fun t => if t = s then channel s else channel s.other) = channel := by
    funext t
    rcases s.eq_or_eq_other t with rfl | rfl <;> simp
  rw [put]
  exact congr (congrArg Link.mk hsession) hchannel

section Putting

variable {l : Link} {s : Side} {session : Option Session} {p : Pipe}

theorem put_session_self : (l.put s session p).session s = session := by
  simp [put]

theorem put_session_other : (l.put s session p).session s.other = l.session s.other := by
  simp [put]

theorem put_pipe_self : (l.put s session p).pipe s = p := by
  simp [put, pipe]

theorem put_pipe_other : (l.put s session p).pipe s.other = p.flip := by
  simp [put, pipe, Pipe.flip]

end Putting

def step (l : Link) (s : Side) (a : Act) : Event × Link :=
  match l.session s, a with
  | none, _ => (.absent, l)
  | some _, .drop => (.dropped, l.put s none (l.pipe s).drop)
  | some session, .call c =>
      let (event, e) := c.perform ⟨session, l.pipe s⟩
      (event, l.put s (some e.session) e.pipe)

section Stepping

variable {l : Link} {s : Side}

theorem step_of_none (h : l.session s = none) (a : Act) : l.step s a = (.absent, l) := by
  simp only [step, h]

theorem step_drop {session : Session} (h : l.session s = some session) :
    l.step s .drop = (.dropped, l.put s none (l.pipe s).drop) := by
  simp only [step, h]

theorem step_call {session : Session} (h : l.session s = some session) (c : Call) :
    l.step s (.call c) =
      ((c.perform ⟨session, l.pipe s⟩).1,
        l.put s (some (c.perform ⟨session, l.pipe s⟩).2.session)
          (c.perform ⟨session, l.pipe s⟩).2.pipe) := by
  simp only [step, h]

end Stepping

def run (l : Link) : List (Side × Act) -> List (Side × Event) × Link
  | [] => ([], l)
  | (s, a) :: rest =>
      let (event, l) := l.step s a
      let (events, l) := l.run rest
      ((s, event) :: events, l)

theorem run_preserves {P : List (Side × Event) -> Link -> Prop} {acts : List (Side × Act)}
    (hstep : forall past l x, x ∈ acts -> P past l ->
      P (past ++ [(x.1, (l.step x.1 x.2).1)]) (l.step x.1 x.2).2)
    {past : List (Side × Event)} {l : Link} (h : P past l) :
    P (past ++ (l.run acts).1) (l.run acts).2 := by
  induction acts generalizing past l with
  | nil =>
      rw [run, List.append_nil]
      exact h
  | cons x acts ih =>
      have hnext := hstep past l x (by simp) h
      have hrest := ih (fun past l y hy => hstep past l y (by simp [hy])) hnext
      rw [List.append_assoc] at hrest
      exact hrest

end Link

def sentBy (s : Side) (events : List (Side × Event)) : List Packet :=
  events.filterMap fun x => if x.1 = s then x.2.sent? else none

def takenBy (s : Side) (events : List (Side × Event)) : List Taking :=
  events.filterMap fun x => if x.1 = s then x.2.taken? else none

section Histories

variable (s : Side) (past : List (Side × Event)) (event : Event)

theorem sentBy_concat_self :
    sentBy s (past ++ [(s, event)]) = sentBy s past ++ event.sent?.toList := by
  cases h : event.sent? <;> simp [sentBy, List.filterMap_append, h]

theorem sentBy_concat_other :
    sentBy s.other (past ++ [(s, event)]) = sentBy s.other past := by
  simp [sentBy, List.filterMap_append, s.other_ne.symm]

theorem takenBy_concat_self :
    takenBy s (past ++ [(s, event)]) = takenBy s past ++ event.taken?.toList := by
  cases h : event.taken? <;> simp [takenBy, List.filterMap_append, h]

theorem takenBy_concat_other :
    takenBy s.other (past ++ [(s, event)]) = takenBy s.other past := by
  simp [takenBy, List.filterMap_append, s.other_ne.symm]

end Histories
end ChainWire
