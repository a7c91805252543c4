import ChainWire.Proofs.Attempt.Basic
import ChainWire.Proofs.ItemType

/-!
# Attempts at items of every type

The steps of every decoder of the library, as attempts.  Single fields have
steps of their own: digits are put into the last places of a word, and a raw
item is cut off by its span.  Records and bodies only put them together.

No step of any of them leaves its range, whatever the input is, so every read
ends with a value or a fault, the one that the decoder gives.
-/

namespace ChainWire
namespace Attempt

/-!
## Single fields
-/

def digits (width : Nat) : Attempt Bytes :=
  string.andThen fun digits rest =>
    if digits.head? == some 0 then some (.fail (.nonCanonical .integerLeadingZero) rest)
    else if width < digits.length then some (.fail (.overflow width digits.length) rest)
    else some (.ok digits rest)

/-- Read an integer: its digits fill the last places of a word of zeros. -/
def uint (width : Nat) : Attempt (Uint width) :=
  (digits width).andThen fun digits rest => do
    let zeros <- sub? width digits.length
    let word <- fill? width (List.replicate zeros 0 ++ digits)
    return .ok ⟨word.number, BigEndian.decode_lt_of_length_le (Nat.le_of_eq word.length_eq)⟩ rest

def bool : Attempt Bool :=
  (uint 1).andThen fun n rest =>
    if n.toNat = 0 then some (.ok false rest)
    else if n.toNat = 1 then some (.ok true rest)
    else some (.fail (.malformed .invalidBool) rest)

def octets (width : Nat) : Attempt (Octets width) :=
  string.andThen fun data rest =>
    if h : data.length = width then some (.ok ⟨data, h⟩ rest)
    else some (.fail (.unexpectedLength width data.length) rest)

/-- Read a value in which `levels - 1` lists may be nested. -/
def value : Nat -> Attempt Value
  | 0, b => some (.fail (.malformed .nestingTooDeep) b)
  | levels + 1, b =>
      header.andThen
        (fun h rest => do
          let (data, after) <- split? h.payloadLength rest
          if h.isList then
            match <- items (value levels) data with
            | .ok items _ => return .ok (.list items) after
            | .fail e _ => return .fail e after
          else return .ok (.bytes data) after)
        b

def raw : Attempt RawItem := fun b => do
  match <- span b with
  | .ok n =>
      let (front, rest) <- split? n b
      return .ok ⟨front⟩ rest
  | .error e => return .fail e b

def rawOfBytes (b : Bytes) : Option (Except DecodeFault RawItem) := do
  match <- span b with
  | .ok n =>
      if n = b.length then return .ok ⟨b⟩
      let left <- sub? b.length n
      return .error (.trailingData left)
  | .error e => return .error e

def recipient : Attempt (Option Address) :=
  string.andThen fun data rest =>
    if data.isEmpty then some (.ok none rest)
    else if h : data.length = 20 then some (.ok (some ⟨data, h⟩) rest)
    else some (.fail (.unexpectedLength 20 data.length) rest)

def receiptStatus : Attempt ReceiptStatus :=
  string.andThen fun data rest =>
    if data.isEmpty then some (.ok .failed rest)
    else if data = [1] then some (.ok .success rest)
    else if data.length = 32 then (fill? 32 data).map fun x => .ok (.postState x) rest
    else some (.fail (.malformed .invalidReceiptStatus) rest)

def blockRef : Attempt BlockRef :=
  peek.andThen fun h b =>
    if h.isList then some (.fail .unexpectedList b)
    else if h.payloadLength = 32 then (octets 32).map .hash b
    else (uint 8).map .number b

def envelope : Attempt (UInt8 × Bytes) :=
  string.andThen fun data rest =>
    match data with
    | [] => some (.fail (.malformed .emptyTypedEnvelope) rest)
    | type :: payload =>
        if TypedEnvelope.isReserved type then some (.fail (.malformed .invalidEnvelopeType) rest)
        else some (.ok (type, payload) rest)

theorem digits_performs (width : Nat) :
    (digits width).Performs ((Uint.decodeDigits width).map Subtype.val) := by
  intro b
  unfold digits Decoder.map Uint.decodeDigits andThen
  rw [string_performs]
  cases Item.string b with
  | fail e rest =>
      rfl
  | ok data rest =>
      simp only [Read.andThen_ok]
      split
      · rfl
      · by_cases hwidth : data.length <= width
        · rw [if_neg (Nat.not_lt.mpr hwidth), dif_pos hwidth]
          rfl
        · rw [if_pos (Nat.lt_of_not_le hwidth), dif_neg hwidth]
          rfl

/-- A number never has more digits than its type is wide, so there is room for the zeros. -/
theorem length_le_of_digits {width : Nat} {b data rest : Bytes}
    (h : digits width b = some (.ok data rest)) : data.length <= width := by
  rw [digits_performs] at h
  rcases Read.map_eq_ok (Option.some.inj h) with ⟨digits, _, rfl⟩
  exact digits.property

theorem uint_performs (width : Nat) : (uint width).Performs (Codec.uint width).decode := by
  intro b
  show _ = some ((Uint.decodeDigits width b).map _)
  unfold uint andThen
  rw [digits_performs]
  show _ = some (Read.map _ (Uint.decodeDigits width b))
  unfold Decoder.map
  cases Uint.decodeDigits width b with
  | fail e rest =>
      rfl
  | ok digits rest =>
      rcases digits with ⟨digits, hwidth⟩
      have hfill := fill?_of_length_eq (Bytes.length_padLeft hwidth)
      have hnumber := BigEndian.decode_padLeft width digits
      unfold Bytes.padLeft at hfill hnumber
      simp [sub?_of_le hwidth, hfill, Octets.number, hnumber]

theorem bool_performs : bool.Performs Codec.bool.decode := by
  apply (uint_performs 1).andThen
  intro b n rest _
  split
  · rfl
  · split <;> rfl

theorem bytes_performs : string.Performs Codec.bytes.decode :=
  string_performs

theorem octets_performs (width : Nat) : (octets width).Performs (Codec.octets width).decode := by
  apply string_performs.andThen
  intro b data rest _
  split <;> rfl

theorem value_performs (levels : Nat) : (value levels).Performs (Value.decodeWithin levels) := by
  induction levels with
  | zero =>
      intro b
      rfl
  | succ levels ih =>
      intro b
      rw [value, Value.decodeWithin]
      apply andThen_of_eq (header_performs b)
      intro h rest hread
      rw [split?_of_le (Header.decode_eq_ok hread).1]
      cases h.isList with
      | false =>
          rfl
      | true =>
          have hitems := items_performs ih (Value.decodeWithin_progresses levels)
            (rest.take h.payloadLength)
          simp [hitems]
          cases Decoder.items (Value.decodeWithin levels) (rest.take h.payloadLength) <;> rfl

end Attempt

theorem Item.span_bounds {b : Bytes} {n : Nat} (h : span b = .ok n) : 1 <= n ∧ n <= b.length := by
  rcases exists_isWhole_of_span h with ⟨e, rest, hwhole, rfl, rfl⟩
  exact ⟨hwhole.length_pos, by simp⟩

namespace Attempt

theorem raw_performs : raw.Performs RawItem.decode := by
  intro b
  rw [raw, span_eq, RawItem.decode]
  cases hspan : Item.span b with
  | error e =>
      rfl
  | ok n =>
      simp [split?_of_le (Item.span_bounds hspan).2]

theorem rawOfBytes_eq (b : Bytes) : rawOfBytes b = some (RawItem.ofBytes b) := by
  rw [rawOfBytes, span_eq, RawItem.ofBytes]
  cases hspan : Item.span b with
  | error e =>
      rfl
  | ok n =>
      by_cases hall : n = b.length
      · simp [hall, Bind.bind, Except.bind, pure, Except.pure]
      · have hleft := sub?_of_le (Item.span_bounds hspan).2
        simp [hall, hleft, Bind.bind, Except.bind, throw, throwThe, MonadExceptOf.throw]

theorem recipient_performs : recipient.Performs Codec.recipient.decode := by
  apply string_performs.andThen
  intro b data rest _
  split
  · rfl
  · split <;> rfl

theorem receiptStatus_performs : receiptStatus.Performs Codec.receiptStatus.decode := by
  apply string_performs.andThen
  intro b data rest _
  split
  · rfl
  · split
    · rfl
    · split
      · rename_i hlength
        rw [fill?_of_length_eq hlength]
        rfl
      · rfl

theorem blockRef_performs : blockRef.Performs Codec.blockRef.decode := by
  apply peek_performs.andThen
  intro b h rest _
  split
  · rfl
  · split
    · exact (octets_performs 32).map BlockRef.hash rest
    · exact (uint_performs 8).map BlockRef.number rest

theorem envelope_performs : envelope.Performs TypedEnvelope.decode := by
  apply string_performs.andThen
  intro b data rest _
  cases data with
  | nil =>
      rfl
  | cons type payload =>
      dsimp only
      split <;> rfl

/-!
## Records
-/

def legacyTransaction : Attempt LegacyTransaction :=
  (record "legacy transaction"
    (cons (uint 8) <| cons (uint 32) <| cons (uint 8) <| cons recipient <| cons (uint 32) <|
      cons string <| cons (uint 32) <| cons (uint 32) <| one (uint 32))).map
    fun (nonce, gasPrice, gas, recipient, value, data, v, r, s) =>
      { nonce, gasPrice, gas, recipient, value, data, v, r, s }

def transaction : Attempt Transaction :=
  peek.andThen fun h b =>
    if h.isList then legacyTransaction.map .legacy b
    else envelope.map (fun (type, payload) => .typed type payload) b

def log : Attempt Log :=
  (record "log" (cons (octets 20) <| cons (list (octets 32)) <| one string)).map
    fun (address, topics, data) => { address, topics, data }

def receiptRecord (type : UInt8) : Attempt Receipt :=
  (record "receipt"
    (cons receiptStatus <| cons (uint 8) <| cons (octets 256) <| one (list log))).map
    fun (status, cumulativeGasUsed, bloom, logs) =>
      { type, status, cumulativeGasUsed, bloom, logs }

def receipt : Attempt Receipt :=
  peek.andThen fun h b =>
    if h.isList then receiptRecord 0 b
    else
      envelope.andThen
        (fun (type, payload) rest => ((receiptRecord type).exact payload).map fun
          | .ok r => .ok r rest
          | .error e => .fail e rest)
        b

def blockHeader : Attempt BlockHeader :=
  (record "block header"
    (cons (octets 32) <| cons (octets 32) <| cons (octets 20) <| cons (octets 32) <|
      cons (octets 32) <| cons (octets 32) <| cons (octets 256) <| cons (uint 32) <|
      cons (uint 32) <| cons (uint 8) <| cons (uint 8) <| cons (uint 8) <|
      cons string <| cons (octets 32) <| cons (octets 8) <| optional (uint 32))).map
    fun (parentHash, uncleHash, coinbase, stateRoot, transactionsRoot, receiptsRoot, logsBloom,
        difficulty, number, gasLimit, gasUsed, timestamp, extraData, mixHash, nonce, baseFee) =>
      { parentHash, uncleHash, coinbase, stateRoot, transactionsRoot, receiptsRoot, logsBloom,
        difficulty, number, gasLimit, gasUsed, timestamp, extraData, mixHash, nonce, baseFee }

def blockBody : Attempt BlockBody :=
  (record "block body" (cons (list transaction) <| one (list blockHeader))).map
    fun (transactions, uncles) => { transactions, uncles }

def block : Attempt Block :=
  (record "block" (cons blockHeader <| cons (list transaction) <| one (list blockHeader))).map
    fun (header, transactions, uncles) => { header, transactions, uncles }

def voteData : Attempt VoteData :=
  (record "vote data"
    (cons (uint 8) <| cons (octets 32) <| cons (uint 8) <| one (octets 32))).map
    fun (sourceNumber, sourceHash, targetNumber, targetHash) =>
      { sourceNumber, sourceHash, targetNumber, targetHash }

def vote : Attempt Vote :=
  (record "vote envelope" (cons (octets 48) <| cons (octets 96) <| one voteData)).map
    fun (address, signature, data) => { address, signature, data }

def forkId : Attempt ForkId :=
  (record "fork id" (cons (octets 4) <| one (uint 8))).map fun (hash, next) => { hash, next }

def status : Attempt Status :=
  (record "Status"
    (cons (uint 4) <| cons (uint 8) <| cons (uint 32) <| cons (octets 32) <|
      cons (octets 32) <| one forkId)).map
    fun (protocolVersion, networkId, totalDifficulty, head, genesis, forkId) =>
      { protocolVersion, networkId, totalDifficulty, head, genesis, forkId }

def blockAnnouncement : Attempt BlockAnnouncement :=
  (record "block hash announcement" (cons (octets 32) <| one (uint 8))).map
    fun (hash, number) => { hash, number }

def headerQuery : Attempt HeaderQuery :=
  (record "GetBlockHeaders" (cons blockRef <| cons (uint 8) <| cons (uint 8) <| one bool)).map
    fun (origin, amount, skip, reverse) => { origin, amount, skip, reverse }

def blockPropagation : Attempt BlockPropagation :=
  (record "NewBlock" (cons block <| one (uint 32))).map
    fun (block, totalDifficulty) => { block, totalDifficulty }

def voteBatch : Attempt VoteBatch :=
  (record "Votes" (one (list vote))).map VoteBatch.mk

theorem legacyTransaction_performs :
    legacyTransaction.Performs Codec.legacyTransaction.decode :=
  .through <| .record <| .cons (uint_performs 8) <| .cons (uint_performs 32) <|
    .cons (uint_performs 8) <| .cons recipient_performs <| .cons (uint_performs 32) <|
    .cons bytes_performs <| .cons (uint_performs 32) <| .cons (uint_performs 32) <|
    .one (uint_performs 32)

theorem transaction_performs : transaction.Performs Codec.transaction.decode := by
  apply peek_performs.andThen
  intro b h rest _
  split
  · exact legacyTransaction_performs.map Transaction.legacy rest
  · exact envelope_performs.map _ rest

theorem hashes_performs : (list (octets 32)).Performs (Codec.list (.octets 32)).decode :=
  list_performs (octets_performs 32) (Codec.octets_strict 32).itemWise

theorem log_performs : log.Performs Codec.log.decode :=
  .through <| .record <| .cons (octets_performs 20) <| .cons hashes_performs <|
    .one bytes_performs

theorem receiptRecord_performs (type : UInt8) :
    (receiptRecord type).Performs (Codec.receiptRecord type).decode :=
  .through <| .record <| .cons receiptStatus_performs <| .cons (uint_performs 8) <|
    .cons (octets_performs 256) <| .one (list_performs log_performs Codec.log_strict.itemWise)

theorem receipt_performs : receipt.Performs Codec.receipt.decode := by
  apply peek_performs.andThen
  intro b h rest _
  split
  · exact receiptRecord_performs 0 rest
  · apply envelope_performs.andThen
    intro b typed left _
    rcases typed with ⟨type, payload⟩
    dsimp only
    rw [(receiptRecord_performs type).exact_eq]
    cases (Codec.receiptRecord type).decode.exact payload <;> rfl

theorem blockHeader_performs : blockHeader.Performs Codec.blockHeader.decode :=
  .through <| .record <| .cons (octets_performs 32) <| .cons (octets_performs 32) <|
    .cons (octets_performs 20) <| .cons (octets_performs 32) <| .cons (octets_performs 32) <|
    .cons (octets_performs 32) <| .cons (octets_performs 256) <| .cons (uint_performs 32) <|
    .cons (uint_performs 32) <| .cons (uint_performs 8) <| .cons (uint_performs 8) <|
    .cons (uint_performs 8) <| .cons bytes_performs <|
    .cons (octets_performs 32) <| .cons (octets_performs 8) <| .optional (uint_performs 32)

theorem transactions_performs : (list transaction).Performs (Codec.list .transaction).decode :=
  list_performs transaction_performs Codec.transaction_strict.itemWise

theorem blockHeaders_performs : (list blockHeader).Performs (Codec.list .blockHeader).decode :=
  list_performs blockHeader_performs Codec.blockHeader_strict.itemWise

theorem blockBody_performs : blockBody.Performs Codec.blockBody.decode :=
  .through <| .record <| .cons transactions_performs <| .one blockHeaders_performs

theorem block_performs : block.Performs Codec.block.decode :=
  .through <| .record <| .cons blockHeader_performs <| .cons transactions_performs <|
    .one blockHeaders_performs

theorem voteData_performs : voteData.Performs Codec.voteData.decode :=
  .through <| .record <| .cons (uint_performs 8) <| .cons (octets_performs 32) <|
    .cons (uint_performs 8) <| .one (octets_performs 32)

theorem vote_performs : vote.Performs Codec.vote.decode :=
  .through <| .record <| .cons (octets_performs 48) <| .cons (octets_performs 96) <|
    .one voteData_performs

theorem forkId_performs : forkId.Performs Codec.forkId.decode :=
  .through <| .record <| .cons (octets_performs 4) <| .one (uint_performs 8)

theorem status_performs : status.Performs Codec.status.decode :=
  .through <| .record <| .cons (uint_performs 4) <| .cons (uint_performs 8) <|
    .cons (uint_performs 32) <| .cons (octets_performs 32) <| .cons (octets_performs 32) <|
    .one forkId_performs

theorem blockAnnouncement_performs :
    blockAnnouncement.Performs Codec.blockAnnouncement.decode :=
  .through <| .record <| .cons (octets_performs 32) <| .one (uint_performs 8)

theorem headerQuery_performs : headerQuery.Performs Codec.headerQuery.decode :=
  .through <| .record <| .cons blockRef_performs <| .cons (uint_performs 8) <|
    .cons (uint_performs 8) <| .one bool_performs

theorem blockPropagation_performs : blockPropagation.Performs Codec.blockPropagation.decode :=
  .through <| .record <| .cons block_performs <| .one (uint_performs 32)

theorem voteBatch_performs : voteBatch.Performs Codec.voteBatch.decode :=
  .through <| .record <| .one <| list_performs vote_performs Codec.vote_strict.itemWise

end Attempt

/-!
## Bodies and items
-/

def Kind.attempt : (k : Kind) -> Attempt k.Body
  | status => .status
  | newBlockHashes => .list .blockAnnouncement
  | transactions => .list .transaction
  | getBlockHeaders => .headerQuery
  | blockHeaders => .list .blockHeader
  | getBlockBodies => .list (.octets 32)
  | blockBodies => .list .blockBody
  | blockBodiesRaw => .list .raw
  | newBlock => .blockPropagation
  | newPooledTransactionHashes => .list (.octets 32)
  | getPooledTransactions => .list (.octets 32)
  | pooledTransactions => .list .transaction
  | pooledTransactionsRaw => .list .raw
  | getNodeData => .list (.octets 32)
  | nodeData => .list .string
  | getReceipts => .list (.octets 32)
  | receipts => .list (.list .receipt)
  | receiptsRaw => .list .raw
  | votes => .voteBatch

def ItemType.attempt : (t : ItemType) -> Attempt t.Carrier
  | uint width => .uint width
  | bool => .bool
  | bytes => .string
  | octets width => .octets width
  | value => .value (Value.maxDepth + 1)
  | raw => .raw
  | list items => .list items.attempt
  | blockRef => .blockRef
  | legacyTransaction => .legacyTransaction
  | transaction => .transaction
  | log => .log
  | receiptStatus => .receiptStatus
  | receipt => .receipt
  | blockHeader => .blockHeader
  | blockBody => .blockBody
  | block => .block
  | voteData => .voteData
  | vote => .vote
  | forkId => .forkId
  | blockAnnouncement => .blockAnnouncement
  | body kind => kind.attempt

open Attempt

theorem Kind.attempt_performs (k : Kind) : k.attempt.Performs k.codec.decode := by
  cases k with
  | status =>
      exact status_performs
  | newBlockHashes =>
      exact list_performs blockAnnouncement_performs Codec.blockAnnouncement_strict.itemWise
  | transactions | pooledTransactions =>
      exact transactions_performs
  | getBlockHeaders =>
      exact headerQuery_performs
  | blockHeaders =>
      exact blockHeaders_performs
  | blockBodies =>
      exact list_performs blockBody_performs Codec.blockBody_strict.itemWise
  | newBlock =>
      exact blockPropagation_performs
  | nodeData =>
      exact list_performs bytes_performs Codec.bytes_strict.itemWise
  | votes =>
      exact voteBatch_performs
  | getBlockBodies | newPooledTransactionHashes | getPooledTransactions | getNodeData
  | getReceipts =>
      exact hashes_performs
  | receipts =>
      exact list_performs (list_performs receipt_performs Codec.receipt_itemWise)
        (Codec.list_itemWise .receipt)
  | blockBodiesRaw | pooledTransactionsRaw | receiptsRaw =>
      exact list_performs raw_performs RawItem.decode_itemWise

/-- Items of every type are read without leaving a range, whatever the input is. -/
theorem ItemType.attempt_performs (t : ItemType) : t.attempt.Performs t.codec.decode := by
  induction t with
  | uint width =>
      exact uint_performs width
  | bool =>
      exact bool_performs
  | bytes =>
      exact bytes_performs
  | octets width =>
      exact octets_performs width
  | value =>
      exact value_performs (Value.maxDepth + 1)
  | raw =>
      exact raw_performs
  | list items ih =>
      exact list_performs ih items.codec_itemWise
  | blockRef =>
      exact blockRef_performs
  | legacyTransaction =>
      exact legacyTransaction_performs
  | transaction =>
      exact transaction_performs
  | log =>
      exact log_performs
  | receiptStatus =>
      exact receiptStatus_performs
  | receipt =>
      exact receipt_performs
  | blockHeader =>
      exact blockHeader_performs
  | blockBody =>
      exact blockBody_performs
  | block =>
      exact block_performs
  | voteData =>
      exact voteData_performs
  | vote =>
      exact vote_performs
  | forkId =>
      exact forkId_performs
  | blockAnnouncement =>
      exact blockAnnouncement_performs
  | body kind =>
      exact kind.attempt_performs

end ChainWire
