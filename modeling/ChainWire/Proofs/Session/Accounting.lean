import ChainWire.Proofs.Message.Faults
import ChainWire.Proofs.Session.Exchange
import ChainWire.Proofs.Session.Link
import Mathlib.Algebra.GroupWithZero.Nat

/-!
# Accounts

What a session counts can be told from what it does: from the packets that it
has the codec write, from the messages that it puts onto the pipe, and from the
messages that it takes off the pipe.  A journal keeps these three, and the
counters of a session are those that its journal calls for.

The other end may do to the pipe what it likes, between two operations and
while an exchange waits for its response.  The journal is therefore read off
the pipe as it is right before and right after the session uses it.
-/

namespace ChainWire

structure Arrival where
  message : RawMessage
  reading : Reading

/-- What a session did, the oldest first. -/
structure Journal where
  attempted : List Packet
  put : List RawMessage
  taken : List Arrival

/-!
## Adding up counters
-/

namespace Traffic

def add (s t : Traffic) : Traffic := ⟨s.messages + t.messages, s.bytes + t.bytes⟩

def ofSizes (sizes : List Nat) : Traffic := ⟨.ofNat sizes.length, .ofNat sizes.sum⟩

theorem add_zero (t : Traffic) : t.add ⟨0, 0⟩ = t := by
  simp [add]

theorem zero_add (t : Traffic) : Traffic.add ⟨0, 0⟩ t = t := by
  simp [add]

theorem add_assoc (s t u : Traffic) : (s.add t).add u = s.add (t.add u) := by
  simp [add, UInt64.add_assoc]

theorem ofSizes_append (sizes sizes' : List Nat) :
    ofSizes (sizes ++ sizes') = (ofSizes sizes).add (ofSizes sizes') := by
  simp [ofSizes, add, UInt64.ofNat_add]

theorem record_eq_add (t : Traffic) (size : Nat) : t.record size = t.add (ofSizes [size]) := by
  simp [ofSizes, add, record]

end Traffic

namespace Counters

def add (c d : Counters) : Counters where
  sent := c.sent.add d.sent
  received := c.received.add d.received
  encodeFailures := c.encodeFailures + d.encodeFailures
  decodeFailures := c.decodeFailures + d.decodeFailures
  unsupportedKinds := c.unsupportedKinds + d.unsupportedKinds
  oversizedMessages := c.oversizedMessages + d.oversizedMessages

theorem add_zero (c : Counters) : c.add .zero = c := by
  simp [add, zero, Traffic.add_zero]

theorem zero_add (c : Counters) : Counters.zero.add c = c := by
  simp [add, zero, Traffic.zero_add]

theorem add_assoc (c d e : Counters) : (c.add d).add e = c.add (d.add e) := by
  simp [add, Traffic.add_assoc, UInt64.add_assoc]

theorem recordSent_eq_add (c : Counters) (size : Nat) :
    c.recordSent size = c.add { zero with sent := .ofSizes [size] } := by
  simp [recordSent, add, zero, Traffic.add_zero, Traffic.record_eq_add]

theorem recordReceived_eq_add (c : Counters) (size : Nat) :
    c.recordReceived size = c.add { zero with received := .ofSizes [size] } := by
  simp [recordReceived, add, zero, Traffic.add_zero, Traffic.record_eq_add]

theorem add_recordFailure (c d : Counters) (f : Failure) :
    (c.add d).recordFailure f = c.add (d.recordFailure f) := by
  cases f <;> simp [recordFailure, add, UInt64.add_assoc]

theorem recordFailure_eq_add (c : Counters) (f : Failure) :
    c.recordFailure f = c.add (zero.recordFailure f) := by
  rw [← add_recordFailure, add_zero]

end Counters

/-!
## What a journal calls for
-/

section Judging

variable (v : Version) (max : Nat)

def Packet.isRejected (p : Packet) : Bool :=
  !(v.encode p).isOk

def Packet.isOversized (p : Packet) : Bool :=
  match v.encode p with
  | .ok (_, b) => max < b.length
  | .error _ => false

namespace Arrival

def size (a : Arrival) : Nat := a.message.payload.length

def fits (a : Arrival) : Bool := a.size <= max

def decode (a : Arrival) : Except DecodeFault Packet :=
  a.reading.decode v a.message.code a.message.payload

/-- There is a message of the code, but the payload is none. -/
def isUnreadable (a : Arrival) : Bool :=
  v.hasCode a.message.code && !(a.decode v).isOk

end Arrival

namespace Journal

def append (j k : Journal) : Journal :=
  ⟨j.attempted ++ k.attempted, j.put ++ k.put, j.taken ++ k.taken⟩

instance : Append Journal := ⟨append⟩

instance : EmptyCollection Journal := ⟨⟨[], [], []⟩⟩

def fitting (j : Journal) : List Arrival :=
  j.taken.filter (Arrival.fits max)

/-- The counters of a session that has done this and nothing else. -/
def counters (j : Journal) : Counters where
  sent := .ofSizes (j.put.map fun m => m.payload.length)
  received := .ofSizes ((j.fitting max).map Arrival.size)
  encodeFailures := .ofNat (j.attempted.countP (Packet.isRejected v))
  decodeFailures := .ofNat ((j.fitting max).countP (Arrival.isUnreadable v))
  unsupportedKinds := .ofNat ((j.fitting max).countP fun a => !v.hasCode a.message.code)
  oversizedMessages := .ofNat
    ((j.taken.countP fun a => max < a.size) + j.attempted.countP (Packet.isOversized v max))

theorem counters_empty : (∅ : Journal).counters v max = .zero := rfl

theorem fitting_append (j k : Journal) :
    (j ++ k).fitting max = j.fitting max ++ k.fitting max :=
  List.filter_append ..

theorem counters_append (j k : Journal) :
    (j ++ k).counters v max = (j.counters v max).add (k.counters v max) := by
  have hattempted : (j ++ k).attempted = j.attempted ++ k.attempted := rfl
  have hput : (j ++ k).put = j.put ++ k.put := rfl
  have htaken : (j ++ k).taken = j.taken ++ k.taken := rfl
  simp only [counters, Counters.add, fitting_append, hattempted, hput, htaken, List.map_append,
    List.countP_append, Traffic.ofSizes_append, UInt64.ofNat_add, Counters.mk.injEq, true_and]
  ac_rfl

end Journal
end Judging

def Session.after (j : Journal) (s : Session) : Session :=
  { s with counters := s.counters.add (j.counters s.version s.maxMessageSize) }

theorem Session.after_empty (s : Session) : s.after ∅ = s := by
  rw [after, Journal.counters_empty, Counters.add_zero]

theorem Session.after_append (j k : Journal) (s : Session) :
    s.after (j ++ k) = (s.after j).after k := by
  simp only [after, Journal.counters_append, Counters.add_assoc]

/-!
## Keeping a journal
-/

def Pipe.putUntil (after before : Pipe) : List RawMessage :=
  after.outgoing.queue.drop before.outgoing.queue.length

def Pipe.takenUntil (after before : Pipe) : List RawMessage :=
  before.incoming.queue.take (before.incoming.queue.length - after.incoming.queue.length)

namespace Call

def attempt? (c : Call) (e : Endpoint) : Option Packet :=
  match c with
  | send p => some p
  | request m drawn => if m.kind.role = .request then some ⟨e.attachedId m drawn, m⟩ else none
  | respond id m => if m.kind.role = .response then some ⟨id, m⟩ else none
  | notify m => if m.kind.role = .notification then some ⟨none, m⟩ else none
  | receive _ => none

def reading : Call -> Reading
  | receive reading => reading
  | _ => .entire

def journal (c : Call) (e : Endpoint) : Journal where
  attempted := (c.attempt? e).toList
  put := (c.perform e).2.pipe.putUntil e.pipe
  taken := ((c.perform e).2.pipe.takenUntil e.pipe).map fun m => ⟨m, c.reading⟩

end Call

/-- What happens at an end of a pipe: the session does something, or the other end does. -/
inductive Turn where
  | call (call : Call)
  /-- An exchange, and what the other end does while it waits. -/
  | exchange (message : Message) (drawn : RequestId) (meanwhile : Pipe -> Pipe)
  | elsewhere (change : Pipe -> Pipe)

namespace Turn

def perform (t : Turn) (e : Endpoint) : Endpoint :=
  match t with
  | call c => (c.perform e).2
  | exchange m drawn meanwhile => (e.exchangeWhile meanwhile m drawn).2
  | elsewhere change => e.changing change

def journal (t : Turn) (e : Endpoint) : Journal :=
  match t with
  | call c => c.journal e
  | exchange m drawn meanwhile =>
      let asking := (Call.request m drawn).journal e
      match e.request m drawn with
      | (.done _, e) => asking ++ (Call.receive .entire).journal (e.changing meanwhile)
      | _ => asking
  | elsewhere _ => ∅

/-- What is left of an exchange when the other end does nothing. -/
theorem perform_exchange (m : Message) (drawn : RequestId) (e : Endpoint) :
    (exchange m drawn fun pipe => pipe).perform e = (e.exchange m drawn).2 := rfl

end Turn

/-- Take turns, keeping a journal of what the session does in them. -/
def Endpoint.run (e : Endpoint) : List Turn -> Journal × Endpoint
  | [] => (∅, e)
  | t :: turns =>
      let (journal, last) := (t.perform e).run turns
      (t.journal e ++ journal, last)

/-!
## One operation
-/

namespace Pipe

variable {p : Pipe} {m : RawMessage} {rest : List RawMessage}

theorem putUntil_self (p : Pipe) : p.putUntil p = [] :=
  List.drop_length

theorem takenUntil_self (p : Pipe) : p.takenUntil p = [] := by
  rw [takenUntil, Nat.sub_self, List.take_zero]

theorem putUntil_append :
    putUntil { p with outgoing := { p.outgoing with queue := p.outgoing.queue ++ [m] } } p =
      [m] :=
  List.drop_left

theorem takenUntil_cons (h : p.incoming.queue = m :: rest) :
    takenUntil { p with incoming := { p.incoming with queue := rest } } p = [m] := by
  simp [takenUntil, h]

end Pipe

namespace Arrival

section Reading

variable {v : Version} {a : Arrival}

theorem decode_of_not_hasCode (h : v.hasCode a.message.code = false) :
    a.decode v = .error (.unsupportedKind v a.message.code) := by
  rcases a with ⟨m, reading⟩
  cases reading with
  | entire =>
      exact Version.decode_of_not_hasCode h m.payload
  | relayed =>
      exact Version.decodeRelay_of_not_hasCode h m.payload

theorem inPayload_of_decode {fault : DecodeFault} (hcode : v.hasCode a.message.code = true)
    (h : a.decode v = .error fault) : fault.InPayload := by
  rcases a with ⟨m, reading⟩
  cases reading with
  | entire =>
      exact Version.decode_inPayload hcode h
  | relayed =>
      exact Version.decodeRelay_inPayload hcode h

end Reading
end Arrival

theorem DecodeFault.InPayload.failureOf {fault : DecodeFault} (h : fault.InPayload) :
    Endpoint.failureOf fault = .decode := by
  cases fault with
  | unsupportedKind v code =>
      exact absurd h id
  | _ =>
      rfl

namespace Journal

section Judged

variable {v : Version} {max code : Nat} {b : Bytes} {p : Packet} {put : List RawMessage}
  {a : Arrival}

theorem counters_of_rejected {fault : EncodeFault} (h : v.encode p = .error fault) :
    counters v max ⟨[p], [], []⟩ = Counters.zero.recordFailure .encode := by
  have hrejected : p.isRejected v = true := by
    rw [Packet.isRejected, h]
    rfl
  have hoversized : p.isOversized v max = false := by
    rw [Packet.isOversized, h]
  simp only [counters, List.countP_singleton, hrejected, hoversized]
  rfl

theorem counters_of_written (h : v.encode p = .ok (code, b)) :
    counters v max ⟨[p], put, []⟩ =
      { Counters.zero with
        sent := .ofSizes (put.map fun m => m.payload.length)
        oversizedMessages := if max < b.length then 1 else 0 } := by
  have hrejected : p.isRejected v = false := by
    rw [Packet.isRejected, h]
    rfl
  have hoversized : p.isOversized v max = decide (max < b.length) := by
    rw [Packet.isOversized, h]
  by_cases hsize : max < b.length
  · simp only [counters, List.countP_singleton, hrejected, hoversized, hsize]
    rfl
  · simp only [counters, List.countP_singleton, hrejected, hoversized, hsize]
    rfl

theorem counters_of_oversized (h : max < a.size) :
    counters v max ⟨[], [], [a]⟩ = Counters.zero.recordFailure .oversized := by
  have hfits : a.fits max = false := decide_eq_false (Nat.not_le.mpr h)
  have hlong : decide (max < a.size) = true := decide_eq_true h
  simp only [counters, fitting, List.filter_singleton, List.countP_singleton, hfits, hlong]
  rfl

theorem fitting_of_le (h : a.size <= max) : fitting max ⟨[], [], [a]⟩ = [a] := by
  have hfits : a.fits max = true := decide_eq_true h
  simp only [fitting, List.filter_singleton, hfits, cond_true]

theorem counters_of_read {q : Packet} (h : a.size <= max) (hread : a.decode v = .ok q) :
    counters v max ⟨[], [], [a]⟩ = { Counters.zero with received := .ofSizes [a.size] } := by
  have hshort : decide (max < a.size) = false := decide_eq_false (Nat.not_lt.mpr h)
  have hcode : v.hasCode a.message.code = true := by
    cases hcode : v.hasCode a.message.code with
    | true =>
        rfl
    | false =>
        rw [Arrival.decode_of_not_hasCode hcode] at hread
        cases hread
  have hreadable : a.isUnreadable v = false := by
    rw [Arrival.isUnreadable, hread, hcode]
    rfl
  simp only [counters, fitting_of_le h, List.countP_singleton, hshort, hcode, hreadable]
  rfl

theorem counters_of_unreadable {fault : DecodeFault} (h : a.size <= max)
    (hread : a.decode v = .error fault) :
    counters v max ⟨[], [], [a]⟩ =
      { Counters.zero with received := .ofSizes [a.size] }.recordFailure
        (Endpoint.failureOf fault) := by
  have hshort : decide (max < a.size) = false := decide_eq_false (Nat.not_lt.mpr h)
  cases hcode : v.hasCode a.message.code with
  | true =>
      have hunreadable : a.isUnreadable v = true := by
        rw [Arrival.isUnreadable, hread, hcode]
        rfl
      rw [(Arrival.inPayload_of_decode hcode hread).failureOf]
      simp only [counters, fitting_of_le h, List.countP_singleton, hshort, hcode, hunreadable]
      rfl
  | false =>
      have hreadable : a.isUnreadable v = false := by
        rw [Arrival.isUnreadable, hcode]
        rfl
      rw [Arrival.decode_of_not_hasCode hcode] at hread
      cases hread
      simp only [counters, fitting_of_le h, List.countP_singleton, hshort, hcode, hreadable]
      rfl

end Judged
end Journal

namespace Endpoint

section Operations

variable {e e' : Endpoint} {p : Packet}

theorem Sends.session_eq {outcome : Outcome Unit} (h : e.Sends p outcome e') :
    e'.session = e.session.after ⟨[p], e'.pipe.putUntil e.pipe, []⟩ ∧
      e'.pipe.takenUntil e.pipe = [] := by
  cases h with
  | sent hencode hsize _ _ =>
      refine ⟨?_, Pipe.takenUntil_self e.pipe⟩
      show _ = e.session.after ⟨[p], Pipe.putUntil _ e.pipe, []⟩
      rw [afterSending, Pipe.putUntil_append, Session.after, Journal.counters_of_written hencode,
        if_neg (Nat.not_lt.mpr hsize), Counters.recordSent_eq_add]
      rfl
  | unwritable hencode =>
      refine ⟨?_, Pipe.takenUntil_self e.pipe⟩
      rw [failing, Pipe.putUntil_self, Session.after, Journal.counters_of_rejected hencode,
        ← Counters.recordFailure_eq_add]
      rfl
  | oversized hencode hsize =>
      refine ⟨?_, Pipe.takenUntil_self e.pipe⟩
      rw [failing, Pipe.putUntil_self, Session.after, Journal.counters_of_written hencode,
        if_pos hsize, Session.recordFailure, Counters.recordFailure_eq_add]
      rfl
  | closed hencode hsize _ | full hencode hsize _ _ =>
      refine ⟨?_, Pipe.takenUntil_self e.pipe⟩
      rw [Pipe.putUntil_self, Session.after, Journal.counters_of_written hencode,
        if_neg (Nat.not_lt.mpr hsize)]
      exact (congrArg (fun c => { e.session with counters := c })
        (Counters.add_zero e.session.counters)).symm

theorem Receives.session_eq {reading : Reading} {outcome : Outcome Packet}
    (h : e.Receives reading.decode outcome e') :
    e'.session = e.session.after
        ⟨[], [], (e'.pipe.takenUntil e.pipe).map fun m => ⟨m, reading⟩⟩ ∧
      e'.pipe.putUntil e.pipe = [] := by
  cases h with
  | @read m rest q hqueue hsize hdecode =>
      have hcounters := Journal.counters_of_read (a := ⟨m, reading⟩) hsize hdecode
      refine ⟨?_, Pipe.putUntil_self e.pipe⟩
      show _ = e.session.after ⟨[], [], (Pipe.takenUntil _ e.pipe).map _⟩
      rw [counting, afterTaking, Pipe.takenUntil_cons hqueue, Session.after, List.map_singleton,
        hcounters, Counters.recordReceived_eq_add]
      rfl
  | @unreadable m rest fault hqueue hsize hdecode =>
      have hcounters := Journal.counters_of_unreadable (a := ⟨m, reading⟩) hsize hdecode
      refine ⟨?_, Pipe.putUntil_self e.pipe⟩
      show _ = e.session.after ⟨[], [], (Pipe.takenUntil _ e.pipe).map _⟩
      rw [failing, counting, afterTaking, Pipe.takenUntil_cons hqueue, Session.after,
        List.map_singleton, hcounters, ← Counters.add_recordFailure, Session.recordFailure,
        Counters.recordReceived_eq_add]
      rfl
  | @oversized m rest hqueue hsize =>
      have hcounters := Journal.counters_of_oversized (v := e.session.version)
        (a := ⟨m, reading⟩) hsize
      refine ⟨?_, Pipe.putUntil_self e.pipe⟩
      show _ = e.session.after ⟨[], [], (Pipe.takenUntil _ e.pipe).map _⟩
      rw [failing, afterTaking, Pipe.takenUntil_cons hqueue, Session.after, List.map_singleton,
        hcounters, ← Counters.recordFailure_eq_add]
      rfl
  | empty | closed =>
      refine ⟨?_, Pipe.putUntil_self e.pipe⟩
      rw [Pipe.takenUntil_self]
      exact e.session.after_empty.symm

end Operations
end Endpoint

namespace Call

theorem perform_eq (c : Call) (e : Endpoint) :
    (c.perform e).2 =
      match c.attempt? e, c with
      | some p, _ => (e.send p).2
      | none, receive reading => (reading.receive e).2
      | none, _ => e := by
  cases c with
  | send q | receive reading =>
      rfl
  | request m drawn =>
      by_cases hrole : m.kind.role = .request
      · rw [attempt?, if_pos hrole]
        exact congrArg Prod.snd (Endpoint.request_eq_send hrole)
      · rw [attempt?, if_neg hrole]
        exact congrArg Prod.snd (Endpoint.request_of_other_role hrole)
  | respond id m =>
      show (e.respond id m).2 = _
      by_cases hrole : m.kind.role = .response
      · rw [attempt?, Endpoint.respond, if_pos hrole, if_pos hrole]
      · rw [attempt?, Endpoint.respond, if_neg hrole, if_neg hrole]
  | notify m =>
      show (e.notify m).2 = _
      by_cases hrole : m.kind.role = .notification
      · rw [attempt?, Endpoint.notify, if_pos hrole, if_pos hrole]
      · rw [attempt?, Endpoint.notify, if_neg hrole, if_neg hrole]

theorem session_perform (c : Call) (e : Endpoint) :
    (c.perform e).2.session = e.session.after (c.journal e) := by
  rw [journal, perform_eq]
  cases hattempt : c.attempt? e with
  | some p =>
      have hsends : e.Sends p (e.send p).1 (e.send p).2 := Endpoint.sends_of_eq rfl
      dsimp only
      rw [hsends.session_eq.2]
      exact hsends.session_eq.1
  | none =>
      cases c with
      | receive reading =>
          have hreceives : e.Receives reading.decode (e.receiveBy reading.decode).1
              (e.receiveBy reading.decode).2 := Endpoint.receives_of_eq rfl
          dsimp only
          rw [reading.receive_eq, hreceives.session_eq.2]
          exact hreceives.session_eq.1
      | _ =>
          dsimp only
          rw [Pipe.putUntil_self, Pipe.takenUntil_self]
          exact e.session.after_empty.symm

end Call

/-!
## Whole runs
-/

namespace Turn

theorem session_perform (t : Turn) (e : Endpoint) :
    (t.perform e).session = e.session.after (t.journal e) := by
  cases t with
  | call c =>
      exact c.session_perform e
  | elsewhere change =>
      exact e.session.after_empty.symm
  | exchange m drawn meanwhile =>
      have hasking : (e.request m drawn).2.session = _ :=
        (Call.request m drawn).session_perform e
      simp only [perform, journal]
      cases hrequest : e.request m drawn with
      | mk outcome sent =>
          rw [hrequest] at hasking
          cases outcome with
          | done id =>
              have hanswer := (Call.receive .entire).session_perform (sent.changing meanwhile)
              rw [Endpoint.exchangeWhile_snd_of_sent hrequest, Session.after_append, ← hasking]
              exact hanswer
          | fail fault | waiting =>
              rw [Endpoint.exchangeWhile_snd_of_not_sent (by simp [hrequest]), hrequest]
              exact hasking

end Turn

theorem Endpoint.session_run (e : Endpoint) (turns : List Turn) :
    (e.run turns).2.session = e.session.after (e.run turns).1 := by
  induction turns generalizing e with
  | nil =>
      exact e.session.after_empty.symm
  | cons t turns ih =>
      show ((t.perform e).run turns).2.session = _
      rw [ih, t.session_perform, ← Session.after_append]
      rfl

theorem Session.eq_of_start {v : Version} {settings : Settings} {session : Session}
    (h : Session.start v settings = .ok session) :
    session = ⟨v, settings.wire.maxMessageSize, .zero⟩ := by
  unfold start at h
  split at h
  · cases h
    rfl
  · cases h

section Totals

variable (v : Version) (max : Nat)

theorem Journal.length_taken (j : Journal) :
    j.taken.length = (j.fitting max).length + j.taken.countP fun a => max < a.size := by
  have hlong : (fun a : Arrival => decide ¬ a.fits max = true) =
      fun a => decide (max < a.size) := by
    funext a
    simp [Arrival.fits]
  rw [fitting, ← List.countP_eq_length_filter, ← hlong]
  exact List.length_eq_countP_add_countP _

theorem Arrival.length_eq_countP (arrivals : List Arrival) :
    arrivals.length =
      (arrivals.countP fun a => (a.decode v).isOk) + arrivals.countP (Arrival.isUnreadable v) +
        arrivals.countP fun a => !v.hasCode a.message.code := by
  induction arrivals with
  | nil =>
      rfl
  | cons a arrivals ih =>
      rw [List.length_cons, List.countP_cons, List.countP_cons, List.countP_cons, ih]
      cases hcode : v.hasCode a.message.code with
      | false =>
          rw [isUnreadable, hcode, decode_of_not_hasCode hcode]
          simp [Except.isOk, Except.toBool]
          omega
      | true =>
          rw [isUnreadable, hcode]
          cases (a.decode v).isOk with
          | true =>
              simp
              omega
          | false =>
              simp
              omega

end Totals

/-- The counters of a session agree with its journal, whatever it is made to do and whatever the
other end does to the pipe. -/
theorem Endpoint.run_accounts {v : Version} {settings : Settings} {session : Session}
    (hstart : Session.start v settings = .ok session) (pipe : Pipe) (turns : List Turn) :
    let max := settings.wire.maxMessageSize
    let journal := (run ⟨session, pipe⟩ turns).1
    let counters := (run ⟨session, pipe⟩ turns).2.session.counters
    counters.sent.messages = .ofNat journal.put.length ∧
    counters.sent.bytes = .ofNat (journal.put.map fun m => m.payload.length).sum ∧
    .ofNat journal.taken.length =
      counters.received.messages + .ofNat (journal.taken.countP fun a => max < a.size) ∧
    counters.received.bytes = .ofNat ((journal.fitting max).map Arrival.size).sum ∧
    counters.received.messages =
      .ofNat ((journal.fitting max).countP fun a => (a.decode v).isOk) +
        counters.decodeFailures + counters.unsupportedKinds ∧
    counters.unsupportedKinds =
      .ofNat ((journal.fitting max).countP fun a => !v.hasCode a.message.code) ∧
    counters.encodeFailures = .ofNat (journal.attempted.countP (Packet.isRejected v)) ∧
    counters.oversizedMessages =
      .ofNat (journal.taken.countP fun a => max < a.size) +
        .ofNat (journal.attempted.countP (Packet.isOversized v max)) := by
  intro max journal counters
  cases Session.eq_of_start hstart
  have hcounters : counters = journal.counters v max := by
    have hsession := session_run ⟨⟨v, max, .zero⟩, pipe⟩ turns
    exact (congrArg Session.counters hsession).trans (Counters.zero_add _)
  have hreceived : counters.received.messages = .ofNat (journal.fitting max).length := by
    rw [hcounters]
    exact congrArg UInt64.ofNat (List.length_map _)
  refine ⟨?_, ?_, ?_, ?_, ?_, ?_, ?_, ?_⟩
  · rw [hcounters]
    exact congrArg UInt64.ofNat (List.length_map _)
  · rw [hcounters]
    rfl
  · rw [hreceived, journal.length_taken max, UInt64.ofNat_add]
  · rw [hcounters]
    rfl
  · rw [hreceived, Arrival.length_eq_countP v, UInt64.ofNat_add, UInt64.ofNat_add, hcounters]
    rfl
  · rw [hcounters]
    rfl
  · rw [hcounters]
    rfl
  · rw [hcounters]
    exact UInt64.ofNat_add _ _

/-- Two packets are refused, and an exchange waits until four messages have arrived: its answer, a
code of no message, a payload that is no message, and one that is too long. -/
def Turn.ofEverySort : List Turn :=
  [.call (.notify ⟨.transactions, [.typed 0x80 []]⟩),
    .call (.notify ⟨.transactions, [.typed 1 [1, 2, 3, 4]]⟩),
    .exchange ⟨.getPooledTransactions, []⟩ ⟨7, by decide⟩ fun pipe =>
      { pipe with incoming := { pipe.incoming with
        queue := [⟨0x0a, [0xC1, 0x01]⟩, ⟨0x42, []⟩, ⟨0x02, [0xC0, 0xC0]⟩,
          ⟨0x02, [0, 0, 0, 0, 0]⟩] } },
    .call (.receive .relayed), .call (.receive .entire), .call (.receive .relayed)]

theorem Endpoint.run_accounts_ofEverySort :
    let settings : Settings := { wire := { maxMessageSize := 4 } }
    let counters :=
      (run ⟨⟨.eth65, 4, .zero⟩, .empty 1⟩ Turn.ofEverySort).2.session.counters
    Session.start .eth65 settings = .ok ⟨.eth65, 4, .zero⟩ ∧
      counters.sent.messages = 1 ∧ counters.sent.bytes = 1 ∧
      4 = counters.received.messages + 1 ∧ counters.received.bytes = 4 ∧
      counters.received.messages = 1 + counters.decodeFailures + counters.unsupportedKinds ∧
      counters.unsupportedKinds = 1 ∧ counters.encodeFailures = 1 ∧
      counters.oversizedMessages = 2 := by
  intro settings counters
  have hstart : Session.start .eth65 settings = .ok ⟨.eth65, 4, .zero⟩ := rfl
  have hjournal : (run ⟨⟨.eth65, 4, .zero⟩, .empty 1⟩ Turn.ofEverySort).1 =
      ⟨[⟨none, ⟨.transactions, [.typed 0x80 []]⟩⟩,
          ⟨none, ⟨.transactions, [.typed 1 [1, 2, 3, 4]]⟩⟩, ⟨none, ⟨.getPooledTransactions, []⟩⟩],
        [⟨0x09, [0xC0]⟩],
        [⟨⟨0x0a, [0xC1, 0x01]⟩, .entire⟩, ⟨⟨0x42, []⟩, .relayed⟩,
          ⟨⟨0x02, [0xC0, 0xC0]⟩, .entire⟩, ⟨⟨0x02, [0, 0, 0, 0, 0]⟩, .relayed⟩]⟩ := rfl
  have haccounts := run_accounts hstart (.empty 1) Turn.ofEverySort
  rw [hjournal] at haccounts
  rcases haccounts with
    ⟨hput, hputBytes, htaken, htakenBytes, hread, hunknown, hrejected, hoversized⟩
  exact ⟨hstart, hput, hputBytes, htaken, htakenBytes, hread, hunknown, hrejected, hoversized⟩

end ChainWire
