import ChainWire.Message.Wire
import ChainWire.Proofs.Attempt.ItemType

/-!
# Attempts at packets

A packet is attempted by its framing, a payload by the version and the kind or
the code that it came with.  With this all that the library reads has been
attempted, from the digits of a length to whole payloads.
-/

namespace ChainWire

open Attempt

def Framing.attempt (f : Framing) (k : Kind) : Attempt Packet :=
  match f with
  | bare => (k.attempt.map (Message.mk k)).map (Packet.mk none)
  | withId =>
      enclosed k.name <| (field k.name (uint 8)).andThen fun id =>
        (field k.name (k.attempt.map (Message.mk k))).map (Packet.mk (some id))

namespace Version

def attemptAs (v : Version) (k : Kind) (payload : Bytes) : Option (Except DecodeFault Packet) :=
  match v.framing k with
  | none => some (.error (.unsupportedKind v k.code))
  | some f => (f.attempt k).exact payload

def attempt (v : Version) (form : Kind -> Kind) (code : Nat) (payload : Bytes) :
    Option (Except DecodeFault Packet) :=
  match v.kindOfCode code with
  | .ok k => v.attemptAs (form k) payload
  | .error e => some (.error e)

end Version

theorem Framing.attempt_performs (f : Framing) (k : Kind) :
    (f.attempt k).Performs (f.decode k) := by
  have hmessage : (k.attempt.map (Message.mk k)).Performs (Message.decode k) :=
    k.attempt_performs.map _
  cases f with
  | bare =>
      exact hmessage.map _
  | withId =>
      have hid : (field k.name (uint 8)).Performs (Decoder.field k.name Uint.decode) :=
        (uint_performs 8).field k.name
      exact (hid.andThen fun _ => (hmessage.field k.name).map _ _).enclosed k.name

namespace Version

theorem attemptAs_eq (v : Version) (k : Kind) (payload : Bytes) :
    v.attemptAs k payload = some (v.decodeAs k payload) := by
  unfold attemptAs decodeAs
  cases v.framing k with
  | none =>
      rfl
  | some f =>
      exact (f.attempt_performs k).exact_eq payload

theorem attempt_id_eq (v : Version) (code : Nat) (payload : Bytes) :
    v.attempt id code payload = some (v.decode code payload) := by
  unfold attempt decode
  cases v.kindOfCode code with
  | error e =>
      rfl
  | ok k =>
      exact v.attemptAs_eq k payload

theorem attempt_relayed_eq (v : Version) (code : Nat) (payload : Bytes) :
    v.attempt Kind.relayed code payload = some (v.decodeRelay code payload) := by
  unfold attempt decodeRelay
  cases v.kindOfCode code with
  | error e =>
      rfl
  | ok k =>
      exact v.attemptAs_eq k.relayed payload

end Version

namespace Attempt

/-- Neither a length nor any number on the way to it needs more than four bytes. -/
theorem decode_take_take_le {width : Nat} (hwidth : width <= Header.maxLengthDigits) (count : Nat)
    (b : Bytes) : BigEndian.decode ((b.take width).take count) <= 0xFFFFFFFF := by
  have hlength : ((b.take width).take count).length <= Header.maxLengthDigits := by
    rw [List.take_take]
    exact Nat.le_trans (List.length_take_le _ _) (Nat.le_trans (Nat.min_le_right _ _) hwidth)
  exact Nat.le_of_lt_succ (BigEndian.decode_lt_of_length_le hlength)

/--
Reading never leaves a range, whatever the bytes are.  A header that is read
has its payload behind it; the digits of a length, of which there is always one
at least, are there, and no number made of them exceeds four bytes; a span lies
within the input; and digits fit into the width of their type.  So no attempt
at an item of any type, or at a payload in any of the ways to read one, ends
without a value or a fault.
-/
theorem stays_in_range :
    (forall b, header b = some (Header.decode b)) ∧
    (forall {b rest : Bytes} {h : Header}, Header.decode b = .ok h rest ->
      h.payloadLength <= rest.length) ∧
    (forall {width : Nat} (b : Bytes), 1 <= width ->
      length width b = some (Header.decodeLength width b)) ∧
    (forall {width : Nat} (count : Nat) (b : Bytes), width <= Header.maxLengthDigits ->
      BigEndian.decode ((b.take width).take count) <= 0xFFFFFFFF) ∧
    (forall b, span b = some (Item.span b)) ∧
    (forall {b : Bytes} {n : Nat}, Item.span b = .ok n -> 1 <= n ∧ n <= b.length) ∧
    (forall b, rawOfBytes b = some (RawItem.ofBytes b)) ∧
    (forall width b, digits width b = some ((Uint.decodeDigits width b).map Subtype.val)) ∧
    (forall {width : Nat} {b data rest : Bytes}, digits width b = some (.ok data rest) ->
      data.length <= width) ∧
    (forall (t : ItemType) (b : Bytes), t.attempt b = some (t.codec.decode b) ∧
      t.attempt.exact b = some (t.codec.decode.exact b)) ∧
    (forall (v : Version) (k : Kind) (b : Bytes), v.attemptAs k b = some (v.decodeAs k b)) ∧
    (forall (v : Version) (code : Nat) (b : Bytes),
      v.attempt id code b = some (v.decode code b) ∧
      v.attempt Kind.relayed code b = some (v.decodeRelay code b)) := by
  refine ⟨header_performs, ?payload, ?length, ?number, span_eq, Item.span_bounds, rawOfBytes_eq,
    digits_performs, length_le_of_digits, ?items, Version.attemptAs_eq, ?payloads⟩
  case payload =>
    intro b rest h hread
    exact (Header.decode_eq_ok hread).1
  case length =>
    intro width b hwidth
    exact length_performs hwidth b
  case number =>
    intro width count b hwidth
    exact decode_take_take_le hwidth count b
  case items =>
    intro t b
    exact ⟨t.attempt_performs b, t.attempt_performs.exact_eq b⟩
  case payloads =>
    intro v code b
    exact ⟨v.attempt_id_eq code b, v.attempt_relayed_eq code b⟩

/-- An item of two digits in front of another byte, and lengths of one and of four digits. -/
theorem stays_in_range_twoDigits :
    (Header.decode [0x82, 1, 2, 9] = .ok (.string 2) [1, 2, 9] ∧ 2 <= 3) ∧
      (Item.span [0x82, 1, 2, 9] = .ok 3 ∧ 1 <= 3 ∧ 3 <= 4) ∧
      (digits 2 [0x82, 1, 2, 9] = some (.ok [1, 2] [9]) ∧ 2 <= 2) ∧
      (1 <= 1 ∧ length 1 [56] = some (Header.decodeLength 1 [56])) ∧
      (4 <= Header.maxLengthDigits ∧
        BigEndian.decode (List.take 3 (List.take 4 [255, 255, 255, 255])) <= 0xFFFFFFFF) := by
  rcases stays_in_range with
    ⟨-, hpayload, hlength, hnumber, -, hspan, -, -, hdigits, -, -, -⟩
  have hread : Header.decode [0x82, 1, 2, 9] = .ok (.string 2) [1, 2, 9] := by decide
  have hitem : Item.span [0x82, 1, 2, 9] = .ok 3 := rfl
  have htaken : digits 2 [0x82, 1, 2, 9] = some (.ok [1, 2] [9]) := rfl
  have hone : 1 <= 1 := Nat.le_refl 1
  have hfour : 4 <= Header.maxLengthDigits := Nat.le_refl 4
  exact ⟨⟨hread, hpayload hread⟩, ⟨hitem, hspan hitem⟩, ⟨htaken, hdigits htaken⟩,
    ⟨hone, hlength [56] hone⟩, ⟨hfour, hnumber 3 [255, 255, 255, 255] hfour⟩⟩

end Attempt
end ChainWire
