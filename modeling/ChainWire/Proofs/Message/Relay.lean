import ChainWire.Proofs.Message.Framing

/-!
# Reading later

A response whose items are kept unread can be read item by item later on.  The
outcome is the one that reading the whole response at once has: the items are
cut at the same places, they are read to the same things, and the first item
that cannot be read gives the fault.

Cutting needs the headers of the items alone, and a decoder that takes one item
at a time makes the same of an item cut out as of one in front of others.
-/

namespace ChainWire

/-- The responses whose items can be kept unread. -/
inductive Relayable where
  | blockBodies
  | pooledTransactions
  | receipts
deriving DecidableEq, Repr

namespace Relayable

def kind : Relayable -> Kind
  | blockBodies => .blockBodies
  | pooledTransactions => .pooledTransactions
  | receipts => .receipts

abbrev Item : Relayable -> Type
  | blockBodies => BlockBody
  | pooledTransactions => Transaction
  | receipts => List Receipt

def item : (r : Relayable) -> Codec r.Item
  | blockBodies => .blockBody
  | pooledTransactions => .transaction
  | receipts => .list .receipt

def message : (r : Relayable) -> List r.Item -> Message
  | blockBodies, xs => ⟨.blockBodies, xs⟩
  | pooledTransactions, xs => ⟨.pooledTransactions, xs⟩
  | receipts, xs => ⟨.receipts, xs⟩

def unread : Relayable -> List RawItem -> Message
  | blockBodies, raws => ⟨.blockBodiesRaw, raws⟩
  | pooledTransactions, raws => ⟨.pooledTransactionsRaw, raws⟩
  | receipts, raws => ⟨.receiptsRaw, raws⟩

def read (r : Relayable) (raw : RawItem) : Except DecodeFault r.Item :=
  raw.read r.item.decode

theorem relayed_eq_self_iff {k : Kind} :
    k.relayed = k <-> forall r : Relayable, r.kind ≠ k := by
  constructor
  · intro h r hkind
    subst hkind
    cases r <;> cases h
  · intro h
    cases k with
    | blockBodies =>
        exact absurd rfl (h blockBodies)
    | pooledTransactions =>
        exact absurd rfl (h pooledTransactions)
    | receipts =>
        exact absurd rfl (h receipts)
    | _ =>
        rfl

end Relayable

/-!
## Lists

One run over the items that are kept is followed by one read of each of them.
-/

namespace Codec

variable {α : Type} {c : Codec α}

theorem result_items_of_run (hc : c.decode.ItemWise) {b : Bytes} {raws : List RawItem}
    (h : Decoder.Run RawItem.decode b raws) :
    (c.decode.items b).result = raws.mapM (RawItem.read c.decode) := by
  induction h with
  | nil =>
      rfl
  | @cons _ rest raw raws hraw _ ih =>
      -- The header alone has cut the item out, so its reader sees the same bytes either way.
      rcases RawItem.eq_append_of_decode hraw with ⟨hwhole, rfl⟩
      cases hitem : c.decode raw.bytes with
      | fail e left =>
          have hread : raw.read c.decode = .error e := by
            rw [RawItem.read, Decoder.exact, hitem]
          have hfault : c.decode (raw.bytes ++ rest) = .fail e (left ++ rest) := by
            rw [hc.append hwhole, hitem]
            rfl
          have hnil : raw.bytes ++ rest ≠ [] := by
            intro hnil
            exact hwhole.ne_nil (List.append_eq_nil_iff.mp hnil).1
          rw [Decoder.items_fault hnil hfault, Outcome.mapM_cons_error hread]
          rfl
      | ok x left =>
          have hleft := hc.exhausts hwhole hitem
          subst hleft
          have hread : raw.read c.decode = .ok x := Decoder.exact_eq_ok_iff.mpr hitem
          have hfirst := hc.append_of_eq_ok hwhole hitem rest
          rw [Decoder.items_cons hc.progresses hfirst, Outcome.mapM_cons_ok hread, ← ih]
          cases c.decode.items rest <;> rfl

/-- To read a list is to take it apart and to read the parts. -/
theorem exact_list_of_raw (hc : c.decode.ItemWise) {e : Bytes} {raws : List RawItem}
    (h : (list raw).decode e = .ok raws []) :
    (list c).decode.exact e = raws.mapM (RawItem.read c.decode) := by
  rcases (list_decode_eq_ok_iff RawItem.decode_itemWise).mp h with ⟨payload, rfl, hlimit, hrun⟩
  rw [← result_items_of_run hc hrun]
  simp only [Decoder.exact, list, Item.payload_ofPayload_append hlimit, Read.andThen_ok]
  cases c.decode.items payload <;> rfl

theorem exists_raw_of_list (hc : c.decode.ItemWise) {e : Bytes} {xs : List α}
    (h : (list c).decode e = .ok xs []) : exists raws, (list raw).decode e = .ok raws [] := by
  rcases (list_decode_eq_ok_iff hc).mp h with ⟨payload, rfl, hlimit, hrun⟩
  rcases exists_parts hc hrun with ⟨parts, rfl, hparts⟩
  exact ⟨parts.map RawItem.mk, list_raw_decode ⟨List.append_nil _, hlimit, hparts⟩⟩

end Codec

/-!
## Messages
-/

namespace Relayable

theorem item_itemWise (r : Relayable) : r.item.decode.ItemWise := by
  cases r with
  | blockBodies =>
      exact Codec.blockBody_strict.itemWise
  | pooledTransactions =>
      exact Codec.transaction_itemWise
  | receipts =>
      exact Codec.list_itemWise .receipt

theorem decode_kind (r : Relayable) :
    Message.decode r.kind = (Codec.list r.item).decode.map r.message := by
  cases r <;> rfl

theorem decode_relayed (r : Relayable) :
    Message.decode r.kind.relayed = (Codec.list .raw).decode.map r.unread := by
  cases r <;> rfl

theorem unread_injective (r : Relayable) : Function.Injective r.unread := by
  intro raws raws' h
  cases r <;> cases h <;> rfl

section Bodies

variable {r : Relayable} {e : Bytes} {m : Message} {raws : List RawItem}

theorem decode_relayed_eq_ok (h : Message.decode r.kind.relayed e = .ok m []) :
    exists raws, m = r.unread raws ∧ (Codec.list .raw).decode e = .ok raws [] := by
  rw [decode_relayed] at h
  rcases Read.map_eq_ok h with ⟨raws, hraws, hm⟩
  exact ⟨raws, hm, hraws⟩

theorem exact_decode_kind (h : Message.decode r.kind.relayed e = .ok (r.unread raws) []) :
    (Message.decode r.kind).exact e = (raws.mapM r.read).map r.message := by
  rcases decode_relayed_eq_ok h with ⟨raws', hunread, hraws⟩
  have heq := r.unread_injective hunread
  subst heq
  have hlist := Codec.exact_list_of_raw r.item_itemWise hraws
  rw [decode_kind, Decoder.exact_map, hlist]
  rfl

theorem decode_relayed_of_decode_kind (h : Message.decode r.kind e = .ok m []) :
    exists raws, Message.decode r.kind.relayed e = .ok (r.unread raws) [] := by
  rw [decode_kind] at h
  rcases Read.map_eq_ok h with ⟨xs, hxs, _⟩
  rcases Codec.exists_raw_of_list r.item_itemWise hxs with ⟨raws, hraws⟩
  refine ⟨raws, ?_⟩
  rw [decode_relayed, Decoder.map, hraws, Read.map_ok]

end Bodies
end Relayable

/-!
## Payloads
-/

namespace Framing

variable {f : Framing} {r : Relayable} {b : Bytes} {p : Packet}

theorem exact_decode_relayed (h : (f.decode r.kind.relayed).exact b = .ok p) :
    exists raws, p = ⟨p.requestId, r.unread raws⟩ ∧
      (f.decode r.kind).exact b =
        (raws.mapM r.read).map fun xs => ⟨p.requestId, r.message xs⟩ := by
  rcases lays_of_decode h with ⟨e, hb, hlays, hbody⟩
  rcases Relayable.decode_relayed_eq_ok hbody with ⟨raws, hmessage, hraws⟩
  rw [hmessage] at hbody
  have he := (Message.decode_itemWise _).isWhole_of_eq_ok hbody
  refine ⟨raws, ?_, ?_⟩
  · rw [← hmessage]
  · rw [exact_decode_of_lays hlays hb he, Relayable.exact_decode_kind hbody]
    cases raws.mapM r.read <;> rfl

theorem exists_exact_decode_relayed (h : (f.decode r.kind).exact b = .ok p) :
    exists raws, (f.decode r.kind.relayed).exact b = .ok ⟨p.requestId, r.unread raws⟩ := by
  rcases lays_of_decode h with ⟨e, hb, hlays, hbody⟩
  have he := (Message.decode_itemWise _).isWhole_of_eq_ok hbody
  rcases Relayable.decode_relayed_of_decode_kind hbody with ⟨raws, hraws⟩
  exact ⟨raws, decode_of_lays hlays hb he hraws⟩

end Framing

/-!
## Versions

Every version carries the responses that can be kept unread, and it lays out
the two forms of each of them in one way.
-/

namespace Version

section Responses

variable {v : Version} {r : Relayable} {b : Bytes} {p : Packet}

theorem exists_framing (v : Version) (r : Relayable) :
    exists f, v.framing r.kind = some f ∧ v.framing r.kind.relayed = some f := by
  cases r <;> exact ⟨_, rfl, rfl⟩

theorem decode_relayable (v : Version) (r : Relayable) (b : Bytes) :
    exists f : Framing, v.decode r.kind.code b = (f.decode r.kind).exact b ∧
      v.decodeRelay r.kind.code b = (f.decode r.kind.relayed).exact b := by
  rcases exists_framing v r with ⟨f, hkind, hrelayed⟩
  have hsupports := (framing_eq_some_iff.mp hkind).1
  have hmaterialized : r.kind.materialized = r.kind := by
    cases r <;> rfl
  refine ⟨f, ?_, ?_⟩
  · rw [decode_code hsupports, hmaterialized, decodeAs, hkind]
  · rw [decodeRelay_code hsupports, hmaterialized, decodeAs, hrelayed]

theorem decode_of_decodeRelay (h : v.decodeRelay r.kind.code b = .ok p) :
    exists raws, p = ⟨p.requestId, r.unread raws⟩ ∧
      v.decode r.kind.code b =
        (raws.mapM r.read).map fun xs => ⟨p.requestId, r.message xs⟩ := by
  rcases decode_relayable v r b with ⟨f, hdecode, hrelay⟩
  rw [hrelay] at h
  rw [hdecode]
  exact Framing.exact_decode_relayed h

theorem exists_decodeRelay_of_decode (h : v.decode r.kind.code b = .ok p) :
    exists raws, v.decodeRelay r.kind.code b = .ok ⟨p.requestId, r.unread raws⟩ := by
  rcases decode_relayable v r b with ⟨f, hdecode, hrelay⟩
  rw [hdecode] at h
  rw [hrelay]
  exact Framing.exists_exact_decode_relayed h

theorem decode_eq_of_decodeRelay {id : Option RequestId} {raws : List RawItem}
    (h : v.decodeRelay r.kind.code b = .ok ⟨id, r.unread raws⟩) :
    v.decode r.kind.code b = (raws.mapM r.read).map fun xs => ⟨id, r.message xs⟩ := by
  rcases decode_of_decodeRelay h with ⟨raws', hp, hdecode⟩
  have heq := r.unread_injective (congrArg Packet.message hp)
  subst heq
  exact hdecode

end Responses

/--
Reading the items of a response later is reading them at once: with the same
request id, to the same items in the same order, and with the fault of the
first item that cannot be read.
-/
theorem decode_eq_ok_iff_decodeRelay (v : Version) (r : Relayable) (b : Bytes) :
    (forall p, v.decode r.kind.code b = .ok p <->
      exists id raws xs, p = ⟨id, r.message xs⟩ ∧
        v.decodeRelay r.kind.code b = .ok ⟨id, r.unread raws⟩ ∧
        List.Forall₂ (fun raw x => r.read raw = .ok x) raws xs) ∧
    (forall q, v.decodeRelay r.kind.code b = .ok q ->
      exists id raws, q = ⟨id, r.unread raws⟩ ∧
        forall before raw after e, raws = before ++ raw :: after ->
          (forall i, i ∈ before -> exists x, r.read i = .ok x) -> r.read raw = .error e ->
          v.decode r.kind.code b = .error e) := by
  constructor
  · intro p
    constructor
    · intro h
      rcases exists_decodeRelay_of_decode h with ⟨raws, hrelay⟩
      rw [decode_eq_of_decodeRelay hrelay] at h
      rcases Outcome.map_eq_ok_iff.mp h with ⟨xs, hxs, hp⟩
      exact ⟨p.requestId, raws, xs, hp, hrelay, Outcome.mapM_eq_ok_iff.mp hxs⟩
    · intro h
      rcases h with ⟨id, raws, xs, rfl, hrelay, hxs⟩
      rw [decode_eq_of_decodeRelay hrelay, Outcome.mapM_eq_ok_iff.mpr hxs]
      rfl
  · intro q h
    rcases decode_of_decodeRelay h with ⟨raws, hq, hdecode⟩
    refine ⟨q.requestId, raws, hq, ?_⟩
    intro before raw after e hraws hbefore hraw
    rw [hdecode, hraws, Outcome.mapM_eq_error_of_first hbefore hraw]
    rfl

/-- One transaction that can be read, and the same one in front of an empty envelope. -/
theorem decode_eq_ok_iff_decodeRelay_pooled :
    (eth66.decodeRelay 0x0a [0xC3, 0x07, 0xC1, 0x01] =
        .ok ⟨some ⟨7, by decide⟩, ⟨.pooledTransactionsRaw, [⟨[0x01]⟩]⟩⟩ ∧
      eth66.decode 0x0a [0xC3, 0x07, 0xC1, 0x01] =
        .ok ⟨some ⟨7, by decide⟩, ⟨.pooledTransactions, [.typed 1 []]⟩⟩) ∧
    (eth66.decodeRelay 0x0a [0xC4, 0x07, 0xC2, 0x01, 0x80] =
        .ok ⟨some ⟨7, by decide⟩, ⟨.pooledTransactionsRaw, [⟨[0x01]⟩, ⟨[0x80]⟩]⟩⟩ ∧
      eth66.decode 0x0a [0xC4, 0x07, 0xC2, 0x01, 0x80] =
        .error (.malformed .emptyTypedEnvelope)) := by
  have hfirst : Relayable.pooledTransactions.read ⟨[0x01]⟩ = .ok (.typed 1 []) := rfl
  have hsecond : Relayable.pooledTransactions.read ⟨[0x80]⟩ =
      .error (.malformed .emptyTypedEnvelope) := rfl
  have hone : eth66.decodeRelay 0x0a [0xC3, 0x07, 0xC1, 0x01] =
      .ok ⟨some ⟨7, by decide⟩, ⟨.pooledTransactionsRaw, [⟨[0x01]⟩]⟩⟩ := rfl
  have htwo : eth66.decodeRelay 0x0a [0xC4, 0x07, 0xC2, 0x01, 0x80] =
      .ok ⟨some ⟨7, by decide⟩, ⟨.pooledTransactionsRaw, [⟨[0x01]⟩, ⟨[0x80]⟩]⟩⟩ := rfl
  refine ⟨⟨hone, ?_⟩, htwo, ?_⟩
  · have hitems : List.Forall₂ (fun raw x => Relayable.pooledTransactions.read raw = .ok x)
        [⟨[0x01]⟩] [.typed 1 []] := .cons hfirst .nil
    exact ((decode_eq_ok_iff_decodeRelay _ .pooledTransactions _).1 _).mpr
      ⟨_, _, _, rfl, hone, hitems⟩
  · rcases (decode_eq_ok_iff_decodeRelay _ .pooledTransactions _).2 _ htwo with
      ⟨id, raws, hq, hfault⟩
    cases hq
    apply hfault [⟨[0x01]⟩] ⟨[0x80]⟩ [] _ rfl _ hsecond
    intro i hi
    rw [List.mem_singleton.mp hi]
    exact ⟨_, hfirst⟩

end Version
end ChainWire
