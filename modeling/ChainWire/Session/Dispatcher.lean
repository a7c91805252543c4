import ChainWire.Message.Wire
import ChainWire.Session.Fault

/-!
# Dispatchers

A dispatcher answers requests by handlers, one for each kind.  A handler may
fail, and its message must be of the kind that answers the request.
-/

namespace ChainWire

abbrev Handler := Message -> Except SessionFault Message

/-- The handlers, the one registered last first. -/
structure Dispatcher where
  handlers : List (Kind × Handler)

namespace Dispatcher

def empty : Dispatcher := ⟨[]⟩

def register (k : Kind) (h : Handler) (d : Dispatcher) : Dispatcher :=
  ⟨(k, h) :: d.handlers⟩

def handler? (d : Dispatcher) (k : Kind) : Option Handler :=
  (d.handlers.find? fun entry => entry.1 == k).map Prod.snd

def hasHandler (d : Dispatcher) (k : Kind) : Bool :=
  (d.handler? k).isSome

/-- The answer to a packet, with the id of the packet. -/
def dispatch (d : Dispatcher) (p : Packet) : Except SessionFault Packet :=
  match d.handler? p.kind with
  | none => .error .unexpectedMessage
  | some h =>
      match h p.message with
      | .error f => .error f
      | .ok m =>
          if p.kind.isAnsweredBy m.kind then .ok ⟨p.requestId, m⟩
          else .error .unexpectedMessage

end Dispatcher
end ChainWire
