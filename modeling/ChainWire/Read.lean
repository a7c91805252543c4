import ChainWire.Fault

/-!
# Reading from the front of a byte string

A decoder takes one item off the front of its input.  Success and failure both
tell what is left: a failed read may have consumed part of the item, and
whoever goes on reading goes on from there.
-/

namespace ChainWire

/-- The outcome of reading one item, with the unread rest. -/
inductive Read (α : Type) where
  | ok (value : α) (rest : Bytes)
  | fail (fault : DecodeFault) (rest : Bytes)
deriving DecidableEq, Repr

namespace Read

def rest {α : Type} : Read α -> Bytes
  | ok _ r => r
  | fail _ r => r

def result {α : Type} : Read α -> Except DecodeFault α
  | ok x _ => .ok x
  | fail e _ => .error e

@[inline]
def andThen {α β : Type} (r : Read α) (f : α -> Bytes -> Read β) : Read β :=
  match r with
  | ok x rest => f x rest
  | fail e rest => fail e rest

@[inline]
def map {α β : Type} (f : α -> β) (r : Read α) : Read β :=
  r.andThen fun x rest => ok (f x) rest

@[simp] theorem andThen_ok {α β : Type} (x : α) (rest : Bytes) (f : α -> Bytes -> Read β) :
    (ok x rest).andThen f = f x rest := rfl

@[simp] theorem andThen_fail {α β : Type} (e : DecodeFault) (rest : Bytes)
    (f : α -> Bytes -> Read β) : (fail e rest).andThen f = fail e rest := rfl

@[simp] theorem map_ok {α β : Type} (f : α -> β) (x : α) (rest : Bytes) :
    (ok x rest).map f = ok (f x) rest := rfl

@[simp] theorem map_fail {α β : Type} (f : α -> β) (e : DecodeFault) (rest : Bytes) :
    (fail e rest : Read α).map f = fail e rest := rfl

end Read

/-- Reads one item from the front of a byte string. -/
abbrev Decoder (α : Type) := Bytes -> Read α

namespace Decoder

def exact {α : Type} (d : Decoder α) (b : Bytes) : Except DecodeFault α :=
  match d b with
  | .ok x [] => .ok x
  | .ok _ rest => .error (.trailingData rest.length)
  | .fail e _ => .error e

def map {α β : Type} (f : α -> β) (d : Decoder α) : Decoder β :=
  fun b => (d b).map f

/--
Items up to the end of a payload, in order.  The budget bounds the number of
items; every item takes at least one byte, so the length of the payload is
always enough.
-/
def itemsFrom {α : Type} (d : Decoder α) : Nat -> List α -> Decoder (List α)
  | _, acc, [] => .ok acc.reverse []
  | 0, acc, b => .ok acc.reverse b
  | budget + 1, acc, b =>
      (d b).andThen fun x rest => itemsFrom d budget (x :: acc) rest

def items {α : Type} (d : Decoder α) : Decoder (List α) :=
  fun b => itemsFrom d b.length [] b

end Decoder
end ChainWire
