import ChainWire.Session.Basic
import ChainWire.Session.Dispatcher

/-!
# Dialogues

An exchange together with the other end of the pipe.  The other end follows a
script, action by action, until an action has to wait.  The two sides take
turns, the exchange first; when neither can move on, no response will come.
-/

namespace ChainWire

inductive ReplyId where
  | echo
  | successor
  | given (id : Option RequestId)
deriving DecidableEq, Repr

/-- The id after a given one; after the last comes zero. -/
def RequestId.next (id : RequestId) : RequestId :=
  ⟨(id.toNat + 1) % BigEndian.bound 8, Nat.mod_lt _ (BigEndian.bound_pos 8)⟩

def ReplyId.resolve (r : ReplyId) (request : Option RequestId) : Option RequestId :=
  match r with
  | echo => request
  | successor => request.map RequestId.next
  | given id => id

inductive Action where
  | receive
  | answer (dispatcher : Dispatcher)
  /-- Send a message as a session. -/
  | reply (id : ReplyId) (message : Message)
  /-- Send a message as it is. -/
  | transmit (message : RawMessage)

inductive Received where
  | packet (packet : Packet)
  | raw (message : RawMessage)

def Received.requestId? : Received -> Option RequestId
  | packet p => p.requestId
  | raw _ => none

structure Partner where
  /-- The session of the end, or none if it handles messages as they are. -/
  session : Option Session
  script : List Action
  received : Option Received
  fault : Option SessionFault

namespace Partner

def ofScript (session : Option Session) (script : List Action) : Partner :=
  ⟨session, script, none, none⟩

def isFinished (p : Partner) : Bool :=
  p.script.isEmpty && p.fault.isNone

def send (packet : Packet) (p : Partner) (pipe : Pipe) : Outcome Unit × Partner × Pipe :=
  match p.session with
  | none => (.fail .unexpectedMessage, p, pipe)
  | some session =>
      let (outcome, e) := Endpoint.send packet ⟨session, pipe⟩
      (outcome, { p with session := some e.session }, e.pipe)

def act (a : Action) (p : Partner) (pipe : Pipe) : Outcome Unit × Partner × Pipe :=
  match a with
  | .receive =>
      match p.session with
      | some session =>
          let (outcome, e) := Endpoint.receive ⟨session, pipe⟩
          let p := { p with session := some e.session }
          match outcome with
          | .done packet => (.done (), { p with received := some (.packet packet) }, e.pipe)
          | .fail f => (.fail f, p, e.pipe)
          | .waiting => (.waiting, p, e.pipe)
      | none =>
          match pipe.receive with
          | (.done m, pipe) => (.done (), { p with received := some (.raw m) }, pipe)
          | (.fail f, pipe) => (.fail f, p, pipe)
          | (.waiting, pipe) => (.waiting, p, pipe)
  | .answer dispatcher =>
      match p.received with
      | some (.packet request) =>
          match dispatcher.dispatch request with
          | .ok packet => p.send packet pipe
          | .error f => (.fail f, p, pipe)
      | _ => (.fail .unexpectedMessage, p, pipe)
  | .reply id message =>
      let request := p.received.bind Received.requestId?
      p.send ⟨id.resolve request, message⟩ pipe
  | .transmit message =>
      let (outcome, pipe) := pipe.send message
      (outcome, p, pipe)

/-- Do the given actions until one has to wait or fails. -/
def follow : List Action -> Partner -> Pipe -> Partner × Pipe
  | [], p, pipe => ({ p with script := [] }, pipe)
  | a :: rest, p, pipe =>
      match p.act a pipe with
      | (.done _, p, pipe) => follow rest p pipe
      | (.fail f, p, pipe) => ({ p with script := [], fault := some f }, pipe)
      | (.waiting, p, pipe) => ({ p with script := a :: rest }, pipe)

def turn (p : Partner) (pipe : Pipe) : Partner × Pipe :=
  follow p.script p pipe

end Partner

namespace Endpoint

def yieldTo (p : Partner) (e : Endpoint) : Endpoint × Partner :=
  let (p, pipe) := p.turn e.pipe.flip
  ({ e with pipe := pipe.flip }, p)

/-- Do something, or do it after a turn of the partner if it has to wait. -/
def besidePartner {α : Type} (op : Endpoint -> Outcome α × Endpoint) :
    Endpoint × Partner -> Outcome α × Endpoint × Partner := fun (e, p) =>
  match op e with
  | (.waiting, e) =>
      let (e, p) := e.yieldTo p
      let (outcome, e) := op e
      (outcome, e, p)
  | (outcome, e) => (outcome, e, p)

def converse (m : Message) (drawn : RequestId) (p : Partner) (e : Endpoint) :
    Outcome Packet × Endpoint × Partner :=
  exchangeBy m.kind (besidePartner (request m drawn))
    (fun id => besidePartner (receiveAnswer m.kind id)) (e, p)

end Endpoint
end ChainWire
