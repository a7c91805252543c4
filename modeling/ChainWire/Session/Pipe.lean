import ChainWire.Bytes
import ChainWire.Session.Fault

/-!
# Pipes

The transport of a session in memory: one bounded queue of messages for each
direction.  An operation that would have to wait says so and changes nothing.

When an end is dropped, what it sent can still be received; after that the
connection is closed.  Sending to a dropped end fails at once.
-/

namespace ChainWire

structure RawMessage where
  code : Nat
  payload : Bytes
deriving DecidableEq, Repr

/-- What became of an operation: it is done, it failed, or it has to wait. -/
inductive Outcome (α : Type) where
  | done (value : α)
  | fail (fault : SessionFault)
  | waiting
deriving DecidableEq, Repr

def Outcome.map {α β : Type} (f : α -> β) : Outcome α -> Outcome β
  | done x => done (f x)
  | fail e => fail e
  | waiting => waiting

structure Channel where
  capacity : Nat
  queue : List RawMessage
  senderOpen : Bool
  receiverOpen : Bool
deriving DecidableEq, Repr

namespace Channel

/-- An empty channel with room for `capacity` messages, but at least one. -/
def empty (capacity : Nat) : Channel := ⟨max capacity 1, [], true, true⟩

def send (m : RawMessage) (c : Channel) : Outcome Channel :=
  if !c.receiverOpen then .fail .connectionClosed
  else if c.queue.length < c.capacity then .done { c with queue := c.queue ++ [m] }
  else .waiting

def receive (c : Channel) : Outcome (RawMessage × Channel) :=
  match c.queue with
  | m :: rest => .done (m, { c with queue := rest })
  | [] => if c.senderOpen then .waiting else .fail .connectionClosed

end Channel

structure Pipe where
  outgoing : Channel
  incoming : Channel
deriving DecidableEq, Repr

namespace Pipe

def empty (capacity : Nat) : Pipe := ⟨.empty capacity, .empty capacity⟩

def flip (p : Pipe) : Pipe := ⟨p.incoming, p.outgoing⟩

@[simp] theorem flip_flip (p : Pipe) : p.flip.flip = p := rfl

def send (m : RawMessage) (p : Pipe) : Outcome Unit × Pipe :=
  match p.outgoing.send m with
  | .done c => (.done (), { p with outgoing := c })
  | .fail e => (.fail e, p)
  | .waiting => (.waiting, p)

def receive (p : Pipe) : Outcome RawMessage × Pipe :=
  match p.incoming.receive with
  | .done (m, c) => (.done m, { p with incoming := c })
  | .fail e => (.fail e, p)
  | .waiting => (.waiting, p)

/-- Drop this end: nothing more is sent, and what was not received is lost. -/
def drop (p : Pipe) : Pipe :=
  { outgoing := { p.outgoing with senderOpen := false }
    incoming := { p.incoming with receiverOpen := false, queue := [] } }

end Pipe
end ChainWire
