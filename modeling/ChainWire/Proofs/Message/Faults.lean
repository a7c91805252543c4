import ChainWire.Chain.Block
import ChainWire.Chain.BlockRef
import ChainWire.Chain.Receipt
import ChainWire.Chain.Vote
import ChainWire.Proofs.Codec.Faults
import ChainWire.Proofs.Message.Versions

/-!
# What messages fail at

The only items with type bytes are transactions and receipts.  `Kind.types`
gives those of a body, in the order in which they are written, and a message
that has its place in a version fails at the first one that is reserved.

A payload is read under a code.  Either the version has no message with this
code, whatever the payload is, or it is the payload that cannot be read.
-/

namespace ChainWire

def Transaction.types : Transaction -> List UInt8
  | .legacy _ => []
  | .typed type _ => [type]

/-- A receipt of type zero does not name its type, but zero is not reserved either. -/
def Receipt.types (r : Receipt) : List UInt8 := [r.type]

def BlockBody.types (b : BlockBody) : List UInt8 :=
  b.transactions.flatMap Transaction.types

def Block.types (b : Block) : List UInt8 :=
  b.transactions.flatMap Transaction.types

/-!
## Envelopes
-/

namespace TypedEnvelope

theorem fault?_encode (type : UInt8) (payload : Bytes) :
    Outcome.fault? (encode type payload) = fault? [type] := by
  unfold encode fault?
  rw [List.find?_singleton]
  cases isReserved type <;> rfl

theorem decode_failsInPayload : decode.FailsInPayload := by
  intro b
  apply (Item.string_failsInPayload b).andThen
  intro data rest
  cases data with
  | nil =>
      exact .fail trivial
  | cons type payload =>
      exact .ite (.fail trivial) .ok

theorem exists_of_fault? {types : List UInt8} {e : EncodeFault} (h : fault? types = some e) :
    exists type, isReserved type = true ∧ e = .invalidEnvelopeType type := by
  rcases Option.map_eq_some_iff.mp h with ⟨type, hfind, he⟩
  exact ⟨type, List.find?_some hfind, he.symm⟩

end TypedEnvelope

namespace Codec

open Fields.Faults

/-!
## Transactions and blocks
-/

theorem recipient_untyped : recipient.Untyped where
  reads b := (Item.string_failsInPayload b).andThen fun _ _ =>
    .ite .ok (.dite (fun _ => .ok) fun _ => .fail trivial)
  writes x := by
    cases x <;> rfl

theorem legacyTransaction_untyped : legacyTransaction.Untyped :=
  Faults.through
    (.record <| .cons (uint_untyped 8) <| .cons (uint_untyped 32) <| .cons (uint_untyped 8) <|
      .cons recipient_untyped <| .cons (uint_untyped 32) <| .cons bytes_untyped <|
      .cons (uint_untyped 32) <| .cons (uint_untyped 32) <| .one (uint_untyped 32))
    fun _ => rfl

theorem transaction_faults : transaction.Faults Transaction.types where
  reads b := by
    apply (Header.peek_failsInPayload b).andThen
    intro h rest
    apply Read.FailsInPayload.ite
    · exact (legacyTransaction_untyped.reads rest).map _
    · exact (TypedEnvelope.decode_failsInPayload rest).map _
  writes t := by
    cases t with
    | legacy t =>
        exact legacyTransaction_untyped.writes t
    | typed type payload =>
        exact TypedEnvelope.fault?_encode type payload

theorem blockHeader_untyped : blockHeader.Untyped :=
  Faults.through
    (.record <| .cons (octets_untyped 32) <| .cons (octets_untyped 32) <|
      .cons (octets_untyped 20) <| .cons (octets_untyped 32) <| .cons (octets_untyped 32) <|
      .cons (octets_untyped 32) <| .cons (octets_untyped 256) <| .cons (uint_untyped 32) <|
      .cons (uint_untyped 32) <| .cons (uint_untyped 8) <| .cons (uint_untyped 8) <|
      .cons (uint_untyped 8) <| .cons bytes_untyped <| .cons (octets_untyped 32) <|
      .cons (octets_untyped 8) <| .optional (uint_untyped 32))
    fun _ => rfl

theorem blockBody_faults : blockBody.Faults BlockBody.types :=
  Faults.through
    (.record <| .cons transaction_faults.list <| .one blockHeader_untyped.list)
    fun _ => (List.append_nil _).symm

theorem block_faults : block.Faults Block.types :=
  Faults.through
    (.record <| .cons blockHeader_untyped <| .cons transaction_faults.list <|
      .one blockHeader_untyped.list)
    fun _ => (List.append_nil _).symm

theorem blockRef_untyped : blockRef.Untyped where
  reads b := by
    apply (Header.peek_failsInPayload b).andThen
    intro h rest
    apply Read.FailsInPayload.ite
    · exact .fail trivial
    · exact .ite (((octets_untyped 32).reads rest).map _)
        (((uint_untyped 8).reads rest).map _)
  writes ref := by
    cases ref <;> rfl

/-!
## Receipts
-/

theorem log_untyped : log.Untyped :=
  Faults.through
    (.record <| .cons (octets_untyped 20) <| .cons (octets_untyped 32).list <|
      .one bytes_untyped)
    fun _ => rfl

theorem receiptStatus_untyped : receiptStatus.Untyped where
  reads b := (Item.string_failsInPayload b).andThen fun _ _ =>
    .ite .ok (.ite .ok (.dite (fun _ => .ok) fun _ => .fail trivial))
  writes s := by
    cases s <;> rfl

theorem receiptRecord_untyped (type : UInt8) : (receiptRecord type).Untyped :=
  Faults.through
    (.record <| .cons receiptStatus_untyped <| .cons (uint_untyped 8) <|
      .cons (octets_untyped 256) <| .one log_untyped.list)
    fun _ => rfl

theorem receipt_faults : receipt.Faults Receipt.types where
  reads b := by
    apply (Header.peek_failsInPayload b).andThen
    intro h rest
    apply Read.FailsInPayload.ite ((receiptRecord_untyped 0).reads rest)
    apply (TypedEnvelope.decode_failsInPayload rest).andThen
    intro envelope left
    dsimp only
    cases hexact : (receiptRecord envelope.1).decode.exact envelope.2 with
    | ok r =>
        exact .ok
    | error e =>
        exact .fail ((receiptRecord_untyped _).reads.exact hexact)
  writes r := by
    rcases Outcome.fault?_eq_none_iff.mp ((receiptRecord_untyped r.type).writes r) with
      ⟨inner, hinner⟩
    show Outcome.fault? ((receiptRecord r.type).encode r >>= fun inner =>
      if r.type = 0 then pure inner else TypedEnvelope.encode r.type inner) = _
    rw [hinner]
    by_cases htype : r.type = 0
    · rw [Receipt.types, htype]
      rfl
    · show Outcome.fault? (if r.type = 0 then _ else _) = _
      rw [if_neg htype]
      exact TypedEnvelope.fault?_encode r.type inner

/-!
## The other bodies
-/

theorem voteData_untyped : voteData.Untyped :=
  Faults.through
    (.record <| .cons (uint_untyped 8) <| .cons (octets_untyped 32) <| .cons (uint_untyped 8) <|
      .one (octets_untyped 32))
    fun _ => rfl

theorem vote_untyped : vote.Untyped :=
  Faults.through
    (.record <| .cons (octets_untyped 48) <| .cons (octets_untyped 96) <| .one voteData_untyped)
    fun _ => rfl

theorem forkId_untyped : forkId.Untyped :=
  Faults.through (.record <| .cons (octets_untyped 4) <| .one (uint_untyped 8)) fun _ => rfl

theorem status_untyped : status.Untyped :=
  Faults.through
    (.record <| .cons (uint_untyped 4) <| .cons (uint_untyped 8) <| .cons (uint_untyped 32) <|
      .cons (octets_untyped 32) <| .cons (octets_untyped 32) <| .one forkId_untyped)
    fun _ => rfl

theorem blockAnnouncement_untyped : blockAnnouncement.Untyped :=
  Faults.through (.record <| .cons (octets_untyped 32) <| .one (uint_untyped 8)) fun _ => rfl

theorem headerQuery_untyped : headerQuery.Untyped :=
  Faults.through
    (.record <| .cons blockRef_untyped <| .cons (uint_untyped 8) <| .cons (uint_untyped 8) <|
      .one bool_untyped)
    fun _ => rfl

theorem blockPropagation_faults : blockPropagation.Faults fun p => p.block.types :=
  Faults.through (.record <| .cons block_faults <| .one (uint_untyped 32))
    fun _ => (List.append_nil _).symm

theorem voteBatch_untyped : voteBatch.Untyped :=
  Faults.through (.record <| .one vote_untyped.list) fun _ => rfl

end Codec

/-!
## Kinds and messages
-/

namespace Kind

/-- The type bytes in a body, in the order in which they are written. -/
def types : (k : Kind) -> k.Body -> List UInt8
  | transactions, body => body.flatMap Transaction.types
  | pooledTransactions, body => body.flatMap Transaction.types
  | blockBodies, body => body.flatMap BlockBody.types
  | newBlock, body => body.block.types
  | receipts, body => body.flatMap fun block => block.flatMap Receipt.types
  | _, _ => []

theorem codec_faults (k : Kind) : k.codec.Faults k.types := by
  cases k with
  | status =>
      exact Codec.status_untyped
  | newBlockHashes =>
      exact Codec.blockAnnouncement_untyped.list
  | transactions | pooledTransactions =>
      exact Codec.transaction_faults.list
  | getBlockHeaders =>
      exact Codec.headerQuery_untyped
  | blockHeaders =>
      exact Codec.blockHeader_untyped.list
  | blockBodies =>
      exact Codec.blockBody_faults.list
  | newBlock =>
      exact Codec.blockPropagation_faults
  | nodeData =>
      exact Codec.bytes_untyped.list
  | receipts =>
      exact Codec.receipt_faults.list.list
  | votes =>
      exact Codec.voteBatch_untyped
  | getBlockBodies | newPooledTransactionHashes | getPooledTransactions | getNodeData
  | getReceipts =>
      exact (Codec.octets_untyped 32).list
  | blockBodiesRaw | pooledTransactionsRaw | receiptsRaw =>
      exact Codec.raw_untyped.list

end Kind

namespace Message

def types (m : Message) : List UInt8 :=
  m.kind.types m.body

theorem fault?_encode (m : Message) :
    Outcome.fault? m.encode = TypedEnvelope.fault? m.types :=
  (Kind.codec_faults m.kind).writes m.body

theorem decode_failsInPayload (k : Kind) : (decode k).FailsInPayload :=
  (Kind.codec_faults k).reads.map (Message.mk k)

end Message

/-!
## Payloads
-/

namespace Framing

theorem decode_failsInPayload (f : Framing) (k : Kind) : (f.decode k).FailsInPayload := by
  cases f with
  | bare =>
      exact (Message.decode_failsInPayload k).map (Packet.mk none)
  | withId =>
      apply Decoder.FailsInPayload.record
      intro b
      apply (Uint.decode_failsInPayload.field k.name b).andThen
      intro id rest
      exact ((Message.decode_failsInPayload k).field k.name rest).map (Packet.mk (some id))

theorem fault?_encode {f : Framing} {p : Packet} (hfits : f.Fits p.requestId) :
    Outcome.fault? (f.encode p) = TypedEnvelope.fault? p.message.types := by
  rw [← Message.fault?_encode]
  cases hmessage : p.message.encode with
  | error e =>
      rw [encode_eq_error_of_message hfits hmessage]
  | ok e =>
      rcases (fits_iff_exists_lays e).mp hfits with ⟨b, hlays⟩
      rw [encode_eq_ok_iff.mpr ⟨e, hmessage, hlays⟩]
      rfl

end Framing

namespace Version

section Faults

variable {v : Version} {f : Framing} {k : Kind} {p : Packet} {code : Nat} {b : Bytes}
  {e : DecodeFault}

theorem fault?_encode (hframing : v.framing p.kind = some f) (hfits : f.Fits p.requestId) :
    Outcome.fault? (v.encode p) = TypedEnvelope.fault? p.message.types := by
  unfold encode
  rw [hframing]
  show Outcome.fault? ((f.encode p).map _) = _
  rw [Outcome.fault?_map, Framing.fault?_encode hfits]

def hasCode (v : Version) (code : Nat) : Bool :=
  v.row.any fun entry => entry.1.code == code

theorem hasCode_iff : v.hasCode code = true <-> exists k, v.supports k = true ∧ k.code = code := by
  simp [hasCode, row, Kind.mem_all]

theorem kindOfCode_of_not_hasCode (h : v.hasCode code = false) :
    v.kindOfCode code = .error (.unsupportedKind v code) := by
  cases hkind : v.kindOfCode code with
  | ok k =>
      rcases kindOfCode_eq_ok hkind with ⟨_, hcode, hsupports⟩
      rw [hasCode_iff.mpr ⟨k, hsupports, hcode⟩] at h
      cases h
  | error e =>
      unfold kindOfCode at hkind
      split at hkind <;> cases hkind
      rfl

theorem decodeAs_inPayload (hsupports : v.supports k = true) (h : v.decodeAs k b = .error e) :
    e.InPayload := by
  rw [decodeAs, framing_of_supports hsupports] at h
  exact (Framing.decode_failsInPayload _ k).exact h

theorem supports_relayed : v.supports k.relayed = v.supports k := by
  cases k <;> rfl

theorem supports_materialized : v.supports k.materialized = v.supports k := by
  cases k <;> rfl

theorem decode_inPayload (hcode : v.hasCode code = true) (h : v.decode code b = .error e) :
    e.InPayload := by
  rcases hasCode_iff.mp hcode with ⟨k, hsupports, hk⟩
  rw [← hk, decode_code hsupports] at h
  exact decodeAs_inPayload (supports_materialized.trans hsupports) h

theorem decodeRelay_inPayload (hcode : v.hasCode code = true)
    (h : v.decodeRelay code b = .error e) : e.InPayload := by
  rcases hasCode_iff.mp hcode with ⟨k, hsupports, hk⟩
  rw [← hk, decodeRelay_code hsupports] at h
  exact decodeAs_inPayload (supports_relayed.trans (supports_materialized.trans hsupports)) h

theorem decode_of_not_hasCode (h : v.hasCode code = false) (b : Bytes) :
    v.decode code b = .error (.unsupportedKind v code) := by
  rw [decode, kindOfCode_of_not_hasCode h]
  rfl

theorem decodeRelay_of_not_hasCode (h : v.hasCode code = false) (b : Bytes) :
    v.decodeRelay code b = .error (.unsupportedKind v code) := by
  rw [decodeRelay, kindOfCode_of_not_hasCode h]
  rfl

end Faults
end Version
end ChainWire
