import ChainWire.Proofs.Session.Link

/-!
# Delivery

Whatever one side of a link has sent, the other side takes in the same order,
each packet as it was sent.  The two limits on the size of messages are one and
the same, and it is below the limit of readers, so what could be sent can be
read.  Attempts to send that failed leave no trace on the pipe.
-/

namespace ChainWire

open Header (payloadLimit)

/-!
## One direction

Of the packets that were sent, the first ones have arrived and the others are
in the queue.  Once the receiver is gone, nobody asks for those any more.
-/

/-- The message is what a session sends for the packet. -/
structure Carries (v : Version) (max : Nat) (p : Packet) (m : RawMessage) : Prop where
  materialized : p.kind.isRaw = false
  encode : v.encode p = .ok (m.code, m.payload)
  size : m.payload.length <= max

/-- The packet was taken off the pipe and read. -/
def Arrives (v : Version) (p : Packet) (t : Taking) : Prop :=
  v.encode p = .ok (t.message.code, t.message.payload) ∧
    exists q, t.outcome = .done q ∧ t.reading.Gives p q

def Conveyed (v : Version) (max : Nat) (sent : List Packet) (taken : List Taking)
    (c : Channel) : Prop :=
  exists arrived pending, sent = arrived ++ pending ∧
    List.Forall₂ (Arrives v) arrived taken ∧
    (c.receiverOpen = true -> List.Forall₂ (Carries v max) pending c.queue)

namespace Conveyed

variable {v : Version} {max : Nat} {sent : List Packet} {taken : List Taking} {c : Channel}

theorem send (h : Conveyed v max sent taken c) {p : Packet} {m : RawMessage}
    (hm : Carries v max p m) :
    Conveyed v max (sent ++ [p]) taken { c with queue := c.queue ++ [m] } := by
  rcases h with ⟨arrived, pending, rfl, harrived, hpending⟩
  refine ⟨arrived, pending ++ [p], List.append_assoc _ _ _, harrived, ?_⟩
  intro hopen
  exact List.rel_append (hpending hopen) (.cons hm .nil)

theorem next (h : Conveyed v max sent taken c) (hopen : c.receiverOpen = true) {m : RawMessage}
    {rest : List RawMessage} (hqueue : c.queue = m :: rest) :
    exists p, Carries v max p m ∧ sent[taken.length]? = some p ∧
      forall t, Arrives v p t ->
        Conveyed v max sent (taken ++ [t]) { c with queue := rest } := by
  rcases h with ⟨arrived, pending, rfl, harrived, hpending⟩
  have hqueued := hpending hopen
  rw [hqueue] at hqueued
  rcases List.forall₂_cons_right_iff.mp hqueued with ⟨p, later, hm, hlater, rfl⟩
  refine ⟨p, hm, ?_, ?_⟩
  · rw [← harrived.length_eq]
    simp
  · intro t ht
    refine ⟨arrived ++ [p], later, by simp, ?_, fun _ => hlater⟩
    exact List.rel_append harrived (.cons ht .nil)

theorem getElem?_of_nil (h : Conveyed v max sent taken c) (hopen : c.receiverOpen = true)
    (hqueue : c.queue = []) : sent[taken.length]? = none := by
  rcases h with ⟨arrived, pending, rfl, harrived, hpending⟩
  have hqueued := hpending hopen
  rw [hqueue] at hqueued
  cases hqueued
  rw [← harrived.length_eq]
  simp

theorem sender_gone (h : Conveyed v max sent taken c) :
    Conveyed v max sent taken { c with senderOpen := false } :=
  h

theorem receiver_gone (h : Conveyed v max sent taken c) :
    Conveyed v max sent taken { c with receiverOpen := false, queue := [] } := by
  rcases h with ⟨arrived, pending, hsent, harrived, _⟩
  exact ⟨arrived, pending, hsent, harrived, fun hopen => by cases hopen⟩

theorem arrives (h : Conveyed v max sent taken c) {k : Nat} {t : Taking}
    (ht : taken[k]? = some t) : exists p, sent[k]? = some p ∧ Arrives v p t := by
  rcases h with ⟨arrived, pending, rfl, harrived, _⟩
  rcases List.getElem?_eq_some_iff.mp ht with ⟨hk, rfl⟩
  rcases List.forall₂_iff_get.mp harrived with ⟨hlength, hget⟩
  have hk' : k < arrived.length := by omega
  refine ⟨arrived[k], ?_, hget k hk' hk⟩
  rw [List.getElem?_append_left hk', List.getElem?_eq_getElem hk']

end Conveyed

/-!
## Both directions
-/

def Pipe.HeldBy (here there : Bool) (p : Pipe) : Prop :=
  p.outgoing.senderOpen = here ∧ p.incoming.receiverOpen = here ∧
    p.incoming.senderOpen = there ∧ p.outgoing.receiverOpen = there

namespace Pipe

variable {here there : Bool} {p : Pipe}

theorem HeldBy.flip (h : p.HeldBy here there) : p.flip.HeldBy there here :=
  ⟨h.2.2.1, h.2.2.2, h.1, h.2.1⟩

theorem HeldBy.drop (h : p.HeldBy here there) : p.drop.HeldBy false there :=
  ⟨rfl, rfl, h.2.2⟩

end Pipe

/-- The past accounts for the present state of the link. -/
structure Orderly (v : Version) (max : Nat) (past : List (Side × Event)) (l : Link) : Prop where
  terms : forall s session, l.session s = some session ->
    session.version = v ∧ session.maxMessageSize = max
  held : forall s, (l.pipe s).HeldBy (l.session s).isSome (l.session s.other).isSome
  outgoing : forall s,
    Conveyed v max (sentBy s past) (takenBy s.other past) (l.pipe s).outgoing

namespace Orderly

variable {v : Version} {max : Nat} {past : List (Side × Event)} {l : Link} {s : Side}

theorem fresh (v : Version) (max capacity : Nat) (counters : Counters) :
    Orderly v max [] (.fresh ⟨v, max, counters⟩ capacity) where
  terms := by
    intro s session h
    cases h
    exact ⟨rfl, rfl⟩
  held _ := ⟨rfl, rfl, rfl, rfl⟩
  outgoing _ := ⟨[], [], rfl, .nil, fun _ => .nil⟩

theorem incoming (h : Orderly v max past l) (s : Side) :
    Conveyed v max (sentBy s.other past) (takenBy s past) (l.pipe s).incoming := by
  have hback := h.outgoing s.other
  rw [Side.other_other] at hback
  exact hback

theorem put (h : Orderly v max past l) (event : Event) {session : Option Session} {p : Pipe}
    (hterms : forall x, session = some x -> x.version = v ∧ x.maxMessageSize = max)
    (hheld : p.HeldBy session.isSome (l.session s.other).isSome)
    (hsent : Conveyed v max (sentBy s past ++ event.sent?.toList) (takenBy s.other past)
      p.outgoing)
    (htaken : Conveyed v max (sentBy s.other past) (takenBy s past ++ event.taken?.toList)
      p.incoming) :
    Orderly v max (past ++ [(s, event)]) (l.put s session p) where
  terms := by
    intro t x hx
    rcases s.eq_or_eq_other t with rfl | rfl
    · rw [Link.put_session_self] at hx
      exact hterms x hx
    · rw [Link.put_session_other] at hx
      exact h.terms _ x hx
  held := by
    intro t
    rcases s.eq_or_eq_other t with rfl | rfl
    · rw [Link.put_pipe_self, Link.put_session_self, Link.put_session_other]
      exact hheld
    · rw [Link.put_pipe_other, Side.other_other, Link.put_session_self, Link.put_session_other]
      exact hheld.flip
  outgoing := by
    intro t
    rcases s.eq_or_eq_other t with rfl | rfl
    · rw [Link.put_pipe_self, sentBy_concat_self, takenBy_concat_other]
      exact hsent
    · rw [Link.put_pipe_other, sentBy_concat_other, Side.other_other, takenBy_concat_self]
      exact htaken

theorem put_quiet (h : Orderly v max past l) {event : Event} (hsent : event.sent? = none)
    (htaken : event.taken? = none) {session : Option Session} {p : Pipe}
    (hterms : forall x, session = some x -> x.version = v ∧ x.maxMessageSize = max)
    (hheld : p.HeldBy session.isSome (l.session s.other).isSome)
    (hout : Conveyed v max (sentBy s past) (takenBy s.other past) p.outgoing)
    (hin : Conveyed v max (sentBy s.other past) (takenBy s past) p.incoming) :
    Orderly v max (past ++ [(s, event)]) (l.put s session p) := by
  apply h.put event hterms hheld
  · rw [hsent, Option.toList_none, List.append_nil]
    exact hout
  · rw [htaken, Option.toList_none, List.append_nil]
    exact hin

theorem absent (h : Orderly v max past l) : Orderly v max (past ++ [(s, .absent)]) l := by
  have hput : Orderly v max (past ++ [(s, .absent)]) (l.put s (l.session s) (l.pipe s)) :=
    h.put_quiet rfl rfl (h.terms s) (h.held s) (h.outgoing s) (h.incoming s)
  rw [Link.put_self] at hput
  exact hput

theorem drop (h : Orderly v max past l) :
    Orderly v max (past ++ [(s, .dropped)]) (l.put s none (l.pipe s).drop) :=
  h.put_quiet rfl rfl (fun _ hx => by cases hx) (h.held s).drop (h.outgoing s).sender_gone
    (h.incoming s).receiver_gone

end Orderly

/-!
## Operations
-/

section Receiving

variable {e : Endpoint} {p : Packet} {m : RawMessage} {rest : List RawMessage}

theorem Reading.receive_of_carries (reading : Reading)
    (hmax : e.session.maxMessageSize < payloadLimit)
    (hqueue : e.pipe.incoming.queue = m :: rest)
    (hm : Carries e.session.version e.session.maxMessageSize p m) :
    exists q, reading.Gives p q ∧
      reading.receive e = (.done q, (e.afterTaking rest).counting m.payload.length) := by
  have hlength := Nat.lt_of_le_of_lt hm.size hmax
  rcases reading.decode_eq_of_encode hm.materialized hm.encode hlength with ⟨q, hq, hread⟩
  refine ⟨q, hq, ?_⟩
  rw [reading.receive_eq]
  exact Endpoint.receiveBy_eq_of_read hqueue hm.size hread

theorem Reading.receive_of_nil (reading : Reading) (hqueue : e.pipe.incoming.queue = []) :
    reading.receive e =
      (if e.pipe.incoming.senderOpen then .waiting else .fail .connectionClosed, e) := by
  rw [reading.receive_eq]
  exact Endpoint.receiveBy_eq_of_nil hqueue

end Receiving

namespace Orderly

section Calling

variable {v : Version} {max : Nat} {past : List (Side × Event)} {l : Link} {s : Side}
  {session : Session}

theorem held_of_some (h : Orderly v max past l) (hsession : l.session s = some session) :
    (l.pipe s).HeldBy true (l.session s.other).isSome := by
  have hheld := h.held s
  rw [hsession] at hheld
  exact hheld

theorem unmoved (h : Orderly v max past l) (hsession : l.session s = some session)
    {event : Event} (hsent : event.sent? = none) (htaken : event.taken? = none)
    {after : Session} (hversion : after.version = session.version)
    (hlimit : after.maxMessageSize = session.maxMessageSize) :
    Orderly v max (past ++ [(s, event)]) (l.put s (some after) (l.pipe s)) := by
  have hterms := h.terms s session hsession
  refine h.put_quiet hsent htaken ?_ (h.held_of_some hsession) (h.outgoing s) (h.incoming s)
  rintro _ ⟨⟩
  exact ⟨hversion.trans hterms.1, hlimit.trans hterms.2⟩

theorem send (h : Orderly v max past l) (hsession : l.session s = some session) {p : Packet}
    (hraw : p.kind.isRaw = false) {e : Endpoint}
    (hsends : Endpoint.Sends ⟨session, l.pipe s⟩ p (.done ()) e) :
    Orderly v max (past ++ [(s, .sent p)]) (l.put s (some e.session) e.pipe) := by
  rcases h.terms s session hsession with ⟨rfl, rfl⟩
  cases hsends with
  | sent hencode hsize hopen hroom =>
      refine h.put (.sent p) ?_ (h.held_of_some hsession)
        ((h.outgoing s).send ⟨hraw, hencode, hsize⟩) ?_
      · rintro _ ⟨⟩
        exact ⟨rfl, rfl⟩
      · rw [Event.taken?_sent, Option.toList_none, List.append_nil]
        exact h.incoming s

/-- What a side that is still there finds when it receives: nothing, if everything that was sent
was taken, and else the next packet. -/
theorem arrival (h : Orderly v max past l) (hmax : max < payloadLimit)
    (hsession : l.session s = some session) (reading : Reading) :
    ((sentBy s.other past)[(takenBy s past).length]? = none ∧
      (l.pipe s).receive.1 =
        (if (l.session s.other).isSome then .waiting else .fail .connectionClosed) ∧
      reading.receive ⟨session, l.pipe s⟩ =
        (if (l.session s.other).isSome then .waiting else .fail .connectionClosed,
          ⟨session, l.pipe s⟩)) ∨
    exists p q m rest, (sentBy s.other past)[(takenBy s past).length]? = some p ∧
      reading.Gives p q ∧ (l.pipe s).receive.1 = .done m ∧
      reading.receive ⟨session, l.pipe s⟩ =
        (.done q, (Endpoint.afterTaking rest ⟨session, l.pipe s⟩).counting m.payload.length) ∧
      Conveyed v max (sentBy s.other past) (takenBy s past ++ [⟨m, reading, .done q⟩])
        { (l.pipe s).incoming with queue := rest } := by
  rcases h.held_of_some hsession with ⟨_, hreceiver, hsender, _⟩
  cases hqueue : (l.pipe s).incoming.queue with
  | nil =>
      left
      refine ⟨(h.incoming s).getElem?_of_nil hreceiver hqueue, ?_, ?_⟩
      · rw [Pipe.receive_of_nil hqueue, hsender]
      · rw [reading.receive_of_nil hqueue, hsender]
  | cons m rest =>
      right
      rcases h.terms s session hsession with ⟨rfl, rfl⟩
      rcases (h.incoming s).next hreceiver hqueue with ⟨p, hm, hp, hnext⟩
      rcases reading.receive_of_carries (e := ⟨session, l.pipe s⟩) hmax hqueue hm with
        ⟨q, hq, hread⟩
      refine ⟨p, q, m, rest, hp, hq, ?_, hread, hnext _ ⟨hm.encode, q, rfl, hq⟩⟩
      rw [Pipe.receive_of_cons hqueue]

theorem receive (h : Orderly v max past l) (hmax : max < payloadLimit)
    (hsession : l.session s = some session) (reading : Reading) {outcome : Outcome Packet}
    {e : Endpoint} (hreceive : reading.receive ⟨session, l.pipe s⟩ = (outcome, e)) :
    Orderly v max (past ++ [(s, .ofTaking reading outcome (l.pipe s).receive.1)])
      (l.put s (some e.session) e.pipe) := by
  rcases h.arrival hmax hsession reading with
    ⟨_, hpipe, hread⟩ | ⟨p, q, m, rest, _, _, hpipe, hread, hconveyed⟩
  · rw [hread] at hreceive
    cases hreceive
    rw [hpipe]
    cases (l.session s.other).isSome <;> exact h.unmoved hsession rfl rfl rfl rfl
  · rw [hread] at hreceive
    cases hreceive
    rw [hpipe]
    refine h.put (.taken ⟨m, reading, .done q⟩) ?_ (h.held_of_some hsession) ?_ hconveyed
    · rintro _ ⟨⟩
      exact h.terms s session hsession
    · rw [Event.sent?_taken, Option.toList_none, List.append_nil]
      exact h.outgoing s

theorem call (h : Orderly v max past l) (hmax : max < payloadLimit)
    (hsession : l.session s = some session) {c : Call}
    (hraw : forall m, c.message? = some m -> m.kind.isRaw = false) {event : Event}
    {e : Endpoint} (hmoves : c.Moves ⟨session, l.pipe s⟩ event e) :
    Orderly v max (past ++ [(s, event)]) (l.put s (some e.session) e.pipe) := by
  cases hmoves with
  | sent hmessage hsends =>
      exact h.send hsession (hraw _ hmessage) hsends
  | received hcall =>
      exact h.receive hmax hsession _ rfl
  | unsent hsent htaken hpipe hversion hlimit =>
      rw [hpipe]
      exact h.unmoved hsession hsent htaken hversion hlimit

end Calling

/-!
## Runs
-/

variable {v : Version} {max : Nat} {past : List (Side × Event)} {l : Link}

theorem step (h : Orderly v max past l) (hmax : max < payloadLimit) (s : Side) {a : Act}
    (ha : a.Materialized) : Orderly v max (past ++ [(s, (l.step s a).1)]) (l.step s a).2 := by
  cases hsession : l.session s with
  | none =>
      rw [Link.step_of_none hsession]
      exact h.absent
  | some session =>
      cases a with
      | drop =>
          rw [Link.step_drop hsession]
          exact h.drop
      | call c =>
          rw [Link.step_call hsession]
          exact h.call hmax hsession ha (c.perform_moves _)

theorem run (h : Orderly v max past l) (hmax : max < payloadLimit) {acts : List (Side × Act)}
    (hacts : forall x, x ∈ acts -> x.2.Materialized) :
    Orderly v max (past ++ (l.run acts).1) (l.run acts).2 :=
  Link.run_preserves (fun _ _ x hx hx' => hx'.step hmax x.1 (hacts x hx)) h

end Orderly

namespace Link

/-- The packets that one side takes are the packets that the other side sent, in the same order
and each as it was sent or as a relay keeps it; and a side that is still there receives the next
of them whenever it asks, and waits or is told that the connection is closed only when none is
left. -/
theorem run_delivers {v : Version} {settings : Settings} {session : Session}
    (hmax : settings.wire.maxMessageSize < payloadLimit)
    (hstart : Session.start v settings = .ok session) (capacity : Nat)
    {acts : List (Side × Act)} (hacts : forall x, x ∈ acts -> x.2.Materialized)
    {events : List (Side × Event)} {l : Link}
    (hrun : (fresh session capacity).run acts = (events, l)) (s : Side) :
    (forall (k : Nat) (t : Taking), (takenBy s events)[k]? = some t ->
      exists p q : Packet, (sentBy s.other events)[k]? = some p ∧
        v.encode p = .ok (t.message.code, t.message.payload) ∧
        t.outcome = .done q ∧ t.reading.Gives p q) ∧
    forall here, l.session s = some here -> forall reading : Reading,
      (forall p, (sentBy s.other events)[(takenBy s events).length]? = some p ->
        exists q, reading.Gives p q ∧ (reading.receive ⟨here, l.pipe s⟩).1 = .done q) ∧
      ((sentBy s.other events)[(takenBy s events).length]? = none ->
        (reading.receive ⟨here, l.pipe s⟩).1 =
          if (l.session s.other).isSome then .waiting else .fail .connectionClosed) := by
  have hsession : session = ⟨v, settings.wire.maxMessageSize, .zero⟩ := by
    unfold Session.start at hstart
    split at hstart
    · cases hstart
      rfl
    · cases hstart
  subst hsession
  have horderly : Orderly v settings.wire.maxMessageSize events l := by
    have hrest := (Orderly.fresh v settings.wire.maxMessageSize capacity .zero).run hmax hacts
    rw [hrun] at hrest
    exact hrest
  constructor
  · intro k t ht
    rcases (horderly.incoming s).arrives ht with ⟨p, hp, hencode, q, hq, hgives⟩
    exact ⟨p, q, hp, hencode, hq, hgives⟩
  · intro here hhere reading
    rcases horderly.arrival hmax hhere reading with
      ⟨hnone, _, hread⟩ | ⟨p, q, _, _, hsome, hgives, _, hread, _⟩
    · rw [hnone, hread]
      refine ⟨?_, fun _ => rfl⟩
      rintro _ ⟨⟩
    · rw [hsome, hread]
      refine ⟨?_, fun hnone => by cases hnone⟩
      rintro _ ⟨⟩
      exact ⟨q, hgives, rfl⟩

/-- One side answers, fails to write an announcement and leaves. -/
theorem run_delivers_pooled :
    let acts : List (Side × Act) :=
      [(.left, .call (.respond none ⟨.pooledTransactions, [.typed 1 []]⟩)),
        (.left, .call (.notify ⟨.transactions, [.typed 0x80 []]⟩)),
        (.left, .drop),
        (.right, .call (.receive .relayed))]
    let (events, l) := (fresh ⟨.eth65, 10 * 1024 * 1024, .zero⟩ 1).run acts
    events.length = 4 ∧
    (exists q, (takenBy .right events).map Taking.outcome = [.done q] ∧
      Reading.relayed.Gives ⟨none, ⟨.pooledTransactions, [.typed 1 []]⟩⟩ q) ∧
    exists here, l.session .right = some here ∧
      (Endpoint.receive ⟨here, l.pipe .right⟩).1 = .fail .connectionClosed := by
  intro acts
  have hmax : ({} : Settings).wire.maxMessageSize < payloadLimit := by decide
  have hstart : Session.start .eth65 {} = .ok ⟨.eth65, 10 * 1024 * 1024, .zero⟩ := rfl
  have hacts : forall x, x ∈ acts -> x.2.Materialized := by
    simp [acts, Act.Materialized, Call.message?, Kind.isRaw]
  have hdelivers := run_delivers hmax hstart 1 hacts rfl .right
  refine ⟨rfl, ?_, ?_⟩
  · rcases hdelivers.1 0 _ rfl with ⟨p, q, hp, _, houtcome, hgives⟩
    cases hp
    exact ⟨q, congrArg (fun outcome => [outcome]) houtcome, hgives⟩
  · exact ⟨_, rfl, (hdelivers.2 _ rfl .entire).2 rfl⟩

end Link
end ChainWire
