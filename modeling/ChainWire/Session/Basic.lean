import ChainWire.Message.Wire
import ChainWire.Session.Counters
import ChainWire.Session.Pipe
import ChainWire.Settings.Basic

/-!
# Sessions

A session speaks one version over one end of a pipe.  It refuses messages that
are too long, ties requests to responses, lets each kind of message pass only
in its role, and counts what happens.

An operation takes the endpoint before it and gives the endpoint after it.
Operations that would have to wait leave the endpoint as it was.  Request ids
are drawn outside and handed in.
-/

namespace ChainWire

structure Session where
  version : Version
  maxMessageSize : Nat
  counters : Counters
deriving DecidableEq, Repr

namespace Session

/-- A fresh session in a version that the settings enable. -/
def start (v : Version) (s : Settings) : Except SessionFault Session :=
  if s.wire.versions.contains v then .ok ⟨v, s.wire.maxMessageSize, .zero⟩
  else .error (.unsupportedVersion v.number)

def recordFailure (f : Failure) (s : Session) : Session :=
  { s with counters := s.counters.recordFailure f }

end Session

structure Endpoint where
  session : Session
  pipe : Pipe
deriving DecidableEq, Repr

namespace Endpoint

def failWith {α : Type} (e : Endpoint) (f : Failure) (fault : SessionFault) :
    Outcome α × Endpoint :=
  (.fail fault, { e with session := e.session.recordFailure f })

def send (p : Packet) (e : Endpoint) : Outcome Unit × Endpoint :=
  match e.session.version.encode p with
  | .error f => e.failWith .encode (.encode f)
  | .ok (code, payload) =>
      let size := payload.length
      if e.session.maxMessageSize < size then
        e.failWith .oversized (.oversizedMessage size e.session.maxMessageSize)
      else
        match e.pipe.send ⟨code, payload⟩ with
        | (.done _, pipe) =>
            let counters := e.session.counters.recordSent size
            (.done (), { session := { e.session with counters }, pipe })
        | (.fail f, _) => (.fail f, e)
        | (.waiting, _) => (.waiting, e)

/-- The id that a request carries: the one drawn for it, if the version uses ids. -/
def attachedId (m : Message) (drawn : RequestId) (e : Endpoint) : Option RequestId :=
  match e.session.version.framing m.kind with
  | some .withId => some drawn
  | _ => none

def request (m : Message) (drawn : RequestId) (e : Endpoint) :
    Outcome (Option RequestId) × Endpoint :=
  if m.kind.role = .request then
    let id := e.attachedId m drawn
    let (outcome, e) := e.send ⟨id, m⟩
    (outcome.map fun _ => id, e)
  else (.fail .unexpectedMessage, e)

def respond (id : Option RequestId) (m : Message) (e : Endpoint) : Outcome Unit × Endpoint :=
  if m.kind.role = .response then e.send ⟨id, m⟩ else (.fail .unexpectedMessage, e)

def notify (m : Message) (e : Endpoint) : Outcome Unit × Endpoint :=
  if m.kind.role = .notification then e.send ⟨none, m⟩ else (.fail .unexpectedMessage, e)

def failureOf : DecodeFault -> Failure
  | .unsupportedKind _ _ => .unsupportedKind
  | _ => .decode

def receiveBy (decode : Version -> Nat -> Bytes -> Except DecodeFault Packet) (e : Endpoint) :
    Outcome Packet × Endpoint :=
  match e.pipe.receive with
  | (.fail f, _) => (.fail f, e)
  | (.waiting, _) => (.waiting, e)
  | (.done m, pipe) =>
      let e := { e with pipe }
      let size := m.payload.length
      if e.session.maxMessageSize < size then
        e.failWith .oversized (.oversizedMessage size e.session.maxMessageSize)
      else
        let counters := e.session.counters.recordReceived size
        let e := { e with session := { e.session with counters } }
        match decode e.session.version m.code m.payload with
        | .ok p => (.done p, e)
        | .error f => e.failWith (failureOf f) (.decode f)

def receive (e : Endpoint) : Outcome Packet × Endpoint :=
  e.receiveBy Version.decode

def receiveRelay (e : Endpoint) : Outcome Packet × Endpoint :=
  e.receiveBy Version.decodeRelay

def receiveAnswer (k : Kind) (id : Option RequestId) (e : Endpoint) :
    Outcome Packet × Endpoint :=
  match e.receive with
  | (.done p, e) =>
      if p.requestId = id && k.isAnsweredBy p.kind then (.done p, e)
      else (.fail .unexpectedMessage, e)
  | other => other

/--
Send a request of kind `k` and take its response; if none comes, time is up.
How the two are done is left open, and so is the state that they change.
-/
def exchangeBy {σ : Type} (k : Kind) (ask : σ -> Outcome (Option RequestId) × σ)
    (take : Option RequestId -> σ -> Outcome Packet × σ) (s : σ) : Outcome Packet × σ :=
  match ask s with
  | (.done id, s) =>
      match take id s with
      | (.waiting, s) => (.fail (.responseTimeout k), s)
      | other => other
  | (.fail f, s) => (.fail f, s)
  | (.waiting, s) => (.waiting, s)

/-- Send a request and take its response from what has arrived. -/
def exchange (m : Message) (drawn : RequestId) : Endpoint -> Outcome Packet × Endpoint :=
  exchangeBy m.kind (request m drawn) (receiveAnswer m.kind)

end Endpoint
end ChainWire
