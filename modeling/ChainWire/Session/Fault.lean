import ChainWire.Fault

/-!
# Faults of a session

Why a session could not send, receive or answer.
-/

namespace ChainWire

inductive SessionFault where
  | encode (fault : EncodeFault)
  | decode (fault : DecodeFault)
  | responseTimeout (kind : Kind)
  | connectionClosed
  | unsupportedVersion (number : Nat)
  | oversizedMessage (size max : Nat)
  | unexpectedMessage
  /-- A handler gave up, in its own words. -/
  | custom (text : String)
deriving DecidableEq, Repr

namespace SessionFault

def message : SessionFault -> String
  | encode fault => s!"Encode error: {fault.message}"
  | decode fault => s!"Decode error: {fault.message}"
  | responseTimeout kind =>
      s!"Transport error: Timed out waiting for {kind.name} response"
  | connectionClosed => "Connection closed"
  | unsupportedVersion number => s!"Unsupported protocol version: {number}"
  | oversizedMessage size max => s!"Message too large: {size} bytes (max {max})"
  | unexpectedMessage => "Unexpected message type"
  | custom text => s!"Custom error: {text}"

end SessionFault

def Version.ofNumber (n : Nat) : Except SessionFault Version :=
  match Version.ofNumber? n with
  | some v => .ok v
  | none => .error (.unsupportedVersion n)

end ChainWire
