import ChainWire.Proofs.Codec.Primitive
import ChainWire.Proofs.Codec.Record
import ChainWire.Proofs.Uint.Octets
import ChainWire.Proofs.Value.Basic

/-!
# Reading in steps that have a range

Taking bytes off an input makes sense only as far as there are bytes, and a
difference only as far as it is not below zero.  The decoders of the library
give such steps some meaning everywhere, so they do not show whether a step
ever leaves its range.  Here every step has its range: outside of it there is
no outcome, and so there is none of anything that the step is part of.  The
same goes for a loop that does not come to an end.

An attempt performs a decoder if it always has an outcome, and the same one.
The range of a step is checked elsewhere, mostly where the header is read, so
what an attempt knows of earlier reads is carried along.
-/

namespace ChainWire

open Header (payloadLimit maxLengthDigits shortPayloadMax stringBase listBase)

/-- Reads one item in steps that have a range; none of them may be left. -/
abbrev Attempt (α : Type) := Bytes -> Option (Read α)

namespace Attempt

variable {α β : Type}

/-!
## Steps
-/

def split? (n : Nat) (b : Bytes) : Option (Bytes × Bytes) :=
  if n <= b.length then some (b.take n, b.drop n) else none

def sub? (m n : Nat) : Option Nat :=
  if n <= m then some (m - n) else none

/-- A length with one more digit, if it stays within the digits that a length may have. -/
def appendDigit? (n : Nat) (digit : UInt8) : Option Nat :=
  if n * 256 + digit.toNat < payloadLimit then some (n * 256 + digit.toNat) else none

def fill? (width : Nat) (b : Bytes) : Option (Octets width) :=
  if h : b.length = width then some ⟨b, h⟩ else none

theorem split?_of_le {n : Nat} {b : Bytes} (h : n <= b.length) :
    split? n b = some (b.take n, b.drop n) :=
  if_pos h

theorem sub?_of_le {m n : Nat} (h : n <= m) : sub? m n = some (m - n) :=
  if_pos h

theorem fill?_of_length_eq {width : Nat} {b : Bytes} (h : b.length = width) :
    fill? width b = some ⟨b, h⟩ :=
  dif_pos h

example : split? 2 [1] = none ∧ sub? 1 2 = none ∧ fill? 2 [1] = none := ⟨rfl, rfl, rfl⟩

theorem foldlM_appendDigit?_of_lt {digits : Bytes} {n width : Nat} (hn : n < BigEndian.bound width)
    (hwidth : width + digits.length <= maxLengthDigits) :
    digits.foldlM appendDigit? n =
      some (digits.foldl (fun acc x => acc * 256 + x.toNat) n) := by
  induction digits generalizing n width with
  | nil =>
      rfl
  | cons x digits ih =>
      rw [List.length_cons] at hwidth
      have hx : x.toNat < 256 := x.toNat_lt
      have hnext : n * 256 + x.toNat < BigEndian.bound (width + 1) := by
        rw [BigEndian.bound_succ]
        omega
      have hlimit : n * 256 + x.toNat < payloadLimit :=
        Nat.lt_of_lt_of_le hnext (BigEndian.bound_le_of_le (by omega))
      rw [List.foldlM_cons, appendDigit?, if_pos hlimit]
      exact ih hnext (by omega)

theorem foldlM_appendDigit? {digits : Bytes} (h : digits.length <= maxLengthDigits) :
    digits.foldlM appendDigit? 0 = some (BigEndian.decode digits) := by
  have hzero : 0 < BigEndian.bound 0 := Nat.zero_lt_one
  exact foldlM_appendDigit?_of_lt hzero (Nat.le_trans (Nat.le_of_eq (Nat.zero_add _)) h)

/-!
## Attempts and what they perform
-/

def andThen (a : Attempt α) (f : α -> Attempt β) : Attempt β := fun b =>
  match a b with
  | none => none
  | some (.ok x rest) => f x rest
  | some (.fail e rest) => some (.fail e rest)

def map (f : α -> β) (a : Attempt α) : Attempt β :=
  a.andThen fun x rest => some (.ok (f x) rest)

/-- The attempt always has an outcome, and it is that of the decoder. -/
def Performs (a : Attempt α) (d : Decoder α) : Prop :=
  forall b, a b = some (d b)

theorem andThen_of_eq {a : Attempt α} {f : α -> Attempt β} {g : α -> Decoder β} {b : Bytes}
    {r : Read α} (ha : a b = some r)
    (hf : forall {x rest}, r = .ok x rest -> f x rest = some (g x rest)) :
    a.andThen f b = some (r.andThen g) := by
  unfold andThen
  rw [ha]
  cases r with
  | ok x rest =>
      exact hf rfl
  | fail e rest =>
      rfl

namespace Performs

variable {a : Attempt α} {d : Decoder α}

theorem andThen (ha : a.Performs d) {f : α -> Attempt β} {g : α -> Decoder β}
    (hf : forall {b x rest}, d b = .ok x rest -> f x rest = some (g x rest)) :
    (a.andThen f).Performs fun b => (d b).andThen g :=
  fun b => andThen_of_eq (ha b) hf

theorem map (ha : a.Performs d) (f : α -> β) : (a.map f).Performs (d.map f) :=
  ha.andThen fun _ => rfl

end Performs

/-!
## Headers
-/

def length (width : Nat) : Attempt Nat := fun b =>
  if maxLengthDigits < width then some (.fail (.malformed .lengthTooWide) b)
  else if b.length < width then some (.fail (.truncated width b.length) b)
  else do
    let first <- b.head?
    if first = 0 then return .fail (.nonCanonical .lengthLeadingZero) b
    let (digits, rest) <- split? width b
    let n <- digits.foldlM appendDigit? 0
    return if n <= shortPayloadMax then .fail (.nonCanonical .longFormShortPayload) rest
      else .ok n rest

def header : Attempt Header := fun b =>
  match b.head? with
  | none => some (.fail (.truncated 1 0) b)
  | some x => do
      let first := x.toNat
      if first < stringBase then return .ok (.string 1) b
      let (_, rest) <- split? 1 b
      if first <= stringBase + shortPayloadMax then
        let n <- sub? first stringBase
        return if n == 1 && Header.startsBare rest then
            .fail (.nonCanonical .singleBytePrefixed) rest
          else Header.present (.string n) rest
      else if first < listBase then
        let width <- sub? first (stringBase + shortPayloadMax)
        (length width).andThen (fun n rest => some (Header.present (.string n) rest)) rest
      else if first <= listBase + shortPayloadMax then
        let n <- sub? first listBase
        return Header.present (.list n) rest
      else
        let width <- sub? first (listBase + shortPayloadMax)
        (length width).andThen (fun n rest => some (Header.present (.list n) rest)) rest

def peek : Attempt Header := fun b =>
  (header b).map fun
    | .ok h _ => .ok h b
    | .fail e _ => .fail e b

theorem length_performs {width : Nat} (hwidth : 1 <= width) :
    (length width).Performs (Header.decodeLength width) := by
  intro b
  by_cases hwide : maxLengthDigits < width
  · rw [Header.decodeLength_of_tooWide hwide, length, if_pos hwide]
  rw [length, Header.decodeLength, if_neg hwide, if_neg hwide]
  by_cases hmissing : b.length < width
  · have hfew : b.hasAtLeast width = false := by
      rw [← Bool.not_eq_true, Bytes.hasAtLeast_iff]
      exact Nat.not_le.mpr hmissing
    rw [if_pos hmissing, hfew]
    rfl
  · have hle : width <= b.length := Nat.not_lt.mp hmissing
    have hall : b.hasAtLeast width = true := (Bytes.hasAtLeast_iff _ _).mpr hle
    have hfold : (b.take width).foldlM appendDigit? 0 =
        some (BigEndian.decode (b.take width)) := by
      apply foldlM_appendDigit?
      rw [List.length_take_of_le hle]
      exact Nat.not_lt.mp hwide
    rw [if_neg hmissing, hall, split?_of_le hle]
    cases b with
    | nil =>
        exact absurd (Nat.le_trans hwidth hle) (by simp)
    | cons x tail =>
        by_cases hzero : x = 0
        · simp [hzero]
        · simp [hzero, hfold]

/-- Without a digit there would be nothing to look at. -/
example : length 0 [] = none := rfl

theorem header_performs : header.Performs Header.decode := by
  have hlong (form : Nat -> Header) {width : Nat} (hwidth : 1 <= width) (b : Bytes) :
      (length width).andThen (fun n rest => some (Header.present (form n) rest)) b =
        some ((Header.decodeLength width b).andThen fun n => Header.present (form n)) :=
    (length_performs hwidth).andThen (fun _ => rfl) b
  intro b
  cases b with
  | nil =>
      rfl
  | cons x rest =>
      have htail : split? 1 (x :: rest) = some ([x], rest) := split?_of_le (by simp)
      simp only [header, Header.decode, List.head?_cons, htail]
      by_cases hbare : x.toNat < stringBase
      · simp [hbare]
      by_cases hstring : x.toNat <= stringBase + shortPayloadMax
      · have hsub := sub?_of_le (Nat.not_lt.mp hbare)
        simp [hbare, hstring, hsub]
      by_cases hlongString : x.toNat < listBase
      · have hsub := sub?_of_le (Nat.le_of_not_le hstring)
        have hwidth : 1 <= x.toNat - (stringBase + shortPayloadMax) := by omega
        simpa [hbare, hstring, hlongString, hsub] using hlong .string hwidth rest
      by_cases hlist : x.toNat <= listBase + shortPayloadMax
      · have hsub := sub?_of_le (Nat.not_lt.mp hlongString)
        simp [hbare, hstring, hlongString, hlist, hsub]
      · have hsub := sub?_of_le (Nat.le_of_not_le hlist)
        have hwidth : 1 <= x.toNat - (listBase + shortPayloadMax) := by omega
        simpa [hbare, hstring, hlongString, hlist, hsub] using hlong .list hwidth rest

theorem peek_performs : peek.Performs Header.peek := by
  intro b
  rw [peek, header_performs, Header.peek]
  cases Header.decode b <;> rfl

/-!
## Items
-/

def take (n : Nat) : Attempt Bytes := fun b =>
  (split? n b).map fun (front, rest) => .ok front rest

def string : Attempt Bytes :=
  header.andThen fun h rest =>
    if h.isList then some (.fail .unexpectedList rest) else take h.payloadLength rest

def payload : Attempt Bytes :=
  header.andThen fun h rest =>
    if h.isList then take h.payloadLength rest else some (.fail .unexpectedString rest)

def span (b : Bytes) : Option (Except DecodeFault Nat) := do
  match <- header b with
  | .ok h rest =>
      let taken <- sub? b.length rest.length
      return .ok (taken + h.payloadLength)
  | .fail e _ => return .error e

def exact (a : Attempt α) (b : Bytes) : Option (Except DecodeFault α) :=
  (a b).map fun
    | .ok x [] => .ok x
    | .ok _ rest => .error (.trailingData rest.length)
    | .fail e _ => .error e

theorem take_of_le {n : Nat} {b : Bytes} (h : n <= b.length) : take n b = some (Item.take n b) := by
  rw [take, split?_of_le h]
  rfl

/-- A header is only read if its payload is there. -/
theorem take_of_header {b rest : Bytes} {h : Header} (hread : Header.decode b = .ok h rest) :
    take h.payloadLength rest = some (Item.take h.payloadLength rest) :=
  take_of_le (Header.decode_eq_ok hread).1

theorem string_performs : string.Performs Item.string := by
  apply header_performs.andThen
  intro b h rest hread
  cases h.isList with
  | true =>
      rfl
  | false =>
      exact take_of_header hread

theorem payload_performs : payload.Performs Item.payload := by
  apply header_performs.andThen
  intro b h rest hread
  cases h.isList with
  | true =>
      exact take_of_header hread
  | false =>
      rfl

theorem span_eq (b : Bytes) : span b = some (Item.span b) := by
  simp only [span, header_performs b, Item.span]
  cases hread : Header.decode b with
  | fail e rest =>
      rfl
  | ok h rest =>
      rcases (Header.decode_eq_ok hread).2 with ⟨hbare, rfl, rfl⟩ | ⟨rfl, hlimit, _⟩
      · simp [hbare, sub?, Header.string]
      · have hneeded := Header.not_startsBare_encode_append
          (Header.lt_bound_of_lt_payloadLimit hlimit) rest
        simp [hneeded, sub?, Header.length_encode]

theorem Performs.exact_eq {a : Attempt α} {d : Decoder α} (ha : a.Performs d) (b : Bytes) :
    a.exact b = some (d.exact b) := by
  rw [exact, ha, Decoder.exact]
  cases d b with
  | fail e rest =>
      rfl
  | ok x rest =>
      cases rest <;> rfl

/-!
## Lists
-/

/-- Items up to the end of a payload, in no more rounds than allowed: else the loop has no end. -/
def itemsFrom (a : Attempt α) : Nat -> List α -> Attempt (List α)
  | _, acc, [] => some (.ok acc.reverse [])
  | 0, _, _ :: _ => none
  | rounds + 1, acc, x :: b =>
      a.andThen (fun y => itemsFrom a rounds (y :: acc)) (x :: b)

def items (a : Attempt α) : Attempt (List α) := fun b =>
  itemsFrom a b.length [] b

def list (a : Attempt α) : Attempt (List α) :=
  payload.andThen fun b rest => (items a b).map fun
    | .ok xs _ => .ok xs rest
    | .fail e _ => .fail e rest

theorem itemsFrom_eq {a : Attempt α} {d : Decoder α} (ha : a.Performs d) (hd : d.Progresses)
    {rounds : Nat} {b : Bytes} (hrounds : b.length <= rounds) (acc : List α) :
    itemsFrom a rounds acc b = some (Decoder.itemsFrom d rounds acc b) := by
  induction rounds generalizing acc b with
  | zero =>
      cases List.length_eq_zero_iff.mp (Nat.le_zero.mp hrounds)
      rfl
  | succ rounds ih =>
      cases b with
      | nil =>
          rfl
      | cons x b =>
          simp only [itemsFrom, Decoder.itemsFrom]
          apply andThen_of_eq (ha _)
          intro y rest hread
          -- What was read takes at least one byte, so one round less is enough for the rest.
          exact ih (Nat.le_of_lt_succ (Nat.lt_of_lt_of_le (hd hread) hrounds)) _

theorem items_performs {a : Attempt α} {d : Decoder α} (ha : a.Performs d) (hd : d.Progresses) :
    (items a).Performs (Decoder.items d) :=
  fun _ => itemsFrom_eq ha hd (Nat.le_refl _) []

theorem list_performs {a : Attempt α} {c : Codec α} (ha : a.Performs c.decode)
    (hc : c.decode.ItemWise) : (list a).Performs (Codec.list c).decode := by
  apply payload_performs.andThen
  intro b payload rest _
  rw [items_performs ha hc.progresses payload]
  cases Decoder.items c.decode payload <;> rfl

/-!
## Records
-/

def field (item : String) (a : Attempt α) : Attempt α := fun b =>
  if b.isEmpty then some (.fail (.fieldCountMismatch item) b) else a b

def enclosed (item : String) (fields : Attempt α) : Attempt α :=
  payload.andThen fun b rest => (fields b).map fun
    | .ok x left =>
        match Decoder.noMoreFields item left with
        | .ok _ _ => .ok x rest
        | .fail e _ => .fail e rest
    | .fail e _ => .fail e rest

def one (a : Attempt α) (item : String) : Attempt α :=
  field item a

def optional (a : Attempt α) (_ : String) : Attempt (Option α) := fun b =>
  if b.isEmpty then some (.ok none b) else a.map some b

def cons (a : Attempt α) (others : String -> Attempt β) (item : String) : Attempt (α × β) :=
  (field item a).andThen fun x => (others item).map fun y => (x, y)

def record (item : String) (fields : String -> Attempt α) : Attempt α :=
  enclosed item (fields item)

theorem Performs.field {a : Attempt α} {d : Decoder α} (ha : a.Performs d) (item : String) :
    (field item a).Performs (Decoder.field item d) := by
  intro b
  unfold Attempt.field Decoder.field
  cases b.isEmpty with
  | true =>
      rfl
  | false =>
      exact ha b

theorem Performs.enclosed {fields : Attempt α} {d : Decoder α} (hfields : fields.Performs d)
    (item : String) : (enclosed item fields).Performs (Decoder.record item d) := by
  apply payload_performs.andThen
  intro b payload rest _
  rw [hfields]
  cases d payload with
  | fail e left =>
      rfl
  | ok x left =>
      rfl

def FieldsPerform (fields : String -> Attempt α) (f : Fields α) : Prop :=
  forall item, (fields item).Performs (f.decode item)

namespace FieldsPerform

variable {a : Attempt α} {c : Codec α}

theorem one (ha : a.Performs c.decode) : FieldsPerform (one a) (.one c) :=
  fun item => ha.field item

theorem optional (ha : a.Performs c.decode) : FieldsPerform (optional a) (.optional c) := by
  intro item b
  show (if b.isEmpty then _ else _) = some (if b.isEmpty then _ else _)
  cases b.isEmpty with
  | true =>
      rfl
  | false =>
      exact ha.map some b

theorem cons {others : String -> Attempt β} {g : Fields β} (ha : a.Performs c.decode)
    (hothers : FieldsPerform others g) : FieldsPerform (cons a others) (.cons c g) :=
  fun item => (ha.field item).andThen fun _ => (hothers item).map _ _

end FieldsPerform

namespace Performs

theorem record {fields : String -> Attempt α} {f : Fields α} (hfields : FieldsPerform fields f)
    {item : String} : (record item fields).Performs (Codec.record item f).decode :=
  (hfields item).enclosed item

theorem through {a : Attempt α} {c : Codec α} (ha : a.Performs c.decode) {view : β -> α}
    {build : α -> β} : (a.map build).Performs (c.through view build).decode :=
  ha.map build

end Performs
end Attempt
end ChainWire
