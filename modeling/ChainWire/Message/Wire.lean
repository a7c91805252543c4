import ChainWire.Catalog
import ChainWire.Message.Body

/-!
# Messages on the wire

A packet is a message with the request id that ties a response to its request.
Depending on version and kind, a packet travels as the bare body or as a record
of two fields, the request id and the body.
-/

namespace ChainWire

abbrev RequestId := Uint 8

/-- A message with its request id, if it has one. -/
structure Packet where
  requestId : Option RequestId
  message : Message

def Packet.kind (p : Packet) : Kind := p.message.kind

inductive Framing where
  | bare
  | withId
deriving DecidableEq, Repr

namespace Framing

def name : Framing -> String
  | bare => "Bare"
  | withId => "RequestId"

def encode (f : Framing) (p : Packet) : Except EncodeFault Bytes :=
  match f, p.requestId with
  | bare, none => p.message.encode
  | bare, some _ => .error (.unexpectedRequestId p.kind)
  | withId, none => .error (.missingRequestId p.kind)
  | withId, some id => do
      let body <- p.message.encode
      return Item.ofPayload (id.encode ++ body)

def decode (f : Framing) (k : Kind) : Decoder Packet :=
  match f with
  | bare => (Message.decode k).map (Packet.mk none)
  | withId =>
      Decoder.record k.name fun b =>
        (Decoder.field k.name Uint.decode b).andThen fun id rest =>
          (Decoder.field k.name (Message.decode k) rest).map (Packet.mk (some id))

end Framing

namespace Version

/-- How kind `k` is laid out, if the version carries it. -/
def framing (v : Version) (k : Kind) : Option Framing :=
  if v.supports k then some (if v.wraps k then .withId else .bare) else none

def encode (v : Version) (p : Packet) : Except EncodeFault (Nat × Bytes) :=
  match v.framing p.kind with
  | none => .error (.unsupportedKind v p.kind)
  | some f => (f.encode p).map fun b => (p.kind.code, b)

def decodeAs (v : Version) (k : Kind) (payload : Bytes) : Except DecodeFault Packet :=
  match v.framing k with
  | none => .error (.unsupportedKind v k.code)
  | some f => (f.decode k).exact payload

def kindOfCode (v : Version) (code : Nat) : Except DecodeFault Kind :=
  match (Kind.ofCode? code).filter v.supports with
  | none => .error (.unsupportedKind v code)
  | some k => .ok k

def decode (v : Version) (code : Nat) (payload : Bytes) : Except DecodeFault Packet := do
  let k <- v.kindOfCode code
  v.decodeAs k payload

/-- Read a payload that came with a code, leaving items unread where that is possible. -/
def decodeRelay (v : Version) (code : Nat) (payload : Bytes) : Except DecodeFault Packet := do
  let k <- v.kindOfCode code
  v.decodeAs k.relayed payload

end Version
end ChainWire
