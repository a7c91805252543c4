/-!
# Traffic counters

What a session has sent, received and failed at.  The counters are words of
64 bits and wrap around.
-/

namespace ChainWire

/-- Why a message did not make it through a session. -/
inductive Failure where
  | encode
  | decode
  | unsupportedKind
  | oversized
deriving DecidableEq, Repr

structure Traffic where
  messages : UInt64
  bytes : UInt64
deriving DecidableEq, Repr

def Traffic.record (t : Traffic) (size : Nat) : Traffic :=
  ⟨t.messages + 1, t.bytes + UInt64.ofNat size⟩

structure Counters where
  sent : Traffic
  received : Traffic
  encodeFailures : UInt64
  decodeFailures : UInt64
  unsupportedKinds : UInt64
  oversizedMessages : UInt64
deriving DecidableEq, Repr

namespace Counters

def zero : Counters := ⟨⟨0, 0⟩, ⟨0, 0⟩, 0, 0, 0, 0⟩

def recordSent (c : Counters) (size : Nat) : Counters :=
  { c with sent := c.sent.record size }

def recordReceived (c : Counters) (size : Nat) : Counters :=
  { c with received := c.received.record size }

def recordFailure (c : Counters) : Failure -> Counters
  | .encode => { c with encodeFailures := c.encodeFailures + 1 }
  | .decode => { c with decodeFailures := c.decodeFailures + 1 }
  | .unsupportedKind => { c with unsupportedKinds := c.unsupportedKinds + 1 }
  | .oversized => { c with oversizedMessages := c.oversizedMessages + 1 }

def failures (c : Counters) : Failure -> UInt64
  | .encode => c.encodeFailures
  | .decode => c.decodeFailures
  | .unsupportedKind => c.unsupportedKinds
  | .oversized => c.oversizedMessages

def totalFailures (c : Counters) : UInt64 :=
  c.encodeFailures + c.decodeFailures + c.unsupportedKinds + c.oversizedMessages

def summary (c : Counters) : String :=
  s!"{c.sent.messages} out / {c.received.messages} in, "
    ++ s!"failures: encode={c.encodeFailures} decode={c.decodeFailures} "
    ++ s!"unsupported={c.unsupportedKinds} oversized={c.oversizedMessages}"

end Counters
end ChainWire
