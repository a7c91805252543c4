import ChainWire.Chain.Envelope
import ChainWire.Codec.Record
import ChainWire.RawItem

/-!
# Writing into a buffer

A writer puts an item behind what a buffer holds already.  Lists and records
are collected in a buffer of their own, since the header in front of them tells
their length; only when all parts are there does anything reach the buffer of
the caller.  A value needs no such buffer: it is measured before it is written.

A buffer keeps whatever was put there, also by a writer that failed later on.
-/

namespace ChainWire

/-- What a buffer holds after something was written, or after writing it failed. -/
inductive Written where
  | ok (buffer : Bytes)
  | fail (fault : EncodeFault) (buffer : Bytes)
deriving DecidableEq, Repr

namespace Written

def result : Written -> Except EncodeFault Bytes
  | ok buffer => .ok buffer
  | fail e _ => .error e

@[inline]
def andThen (w : Written) (f : Bytes -> Written) : Written :=
  match w with
  | ok buffer => f buffer
  | fail e buffer => fail e buffer

@[simp] theorem andThen_ok (buffer : Bytes) (f : Bytes -> Written) :
    (ok buffer).andThen f = f buffer := rfl

@[simp] theorem andThen_fail (e : EncodeFault) (buffer : Bytes) (f : Bytes -> Written) :
    (fail e buffer).andThen f = fail e buffer := rfl

end Written

/-- Puts something behind what a buffer holds. -/
abbrev Push := Bytes -> Written

namespace Push

def inTurn : List Push -> Push
  | [], out => .ok out
  | push :: pushes, out => (push out).andThen (inTurn pushes)

/-- A list around what the pushes leave in a buffer of its own. -/
def enclosed (pushes : List Push) : Push := fun out =>
  match inTurn pushes [] with
  | .ok payload => .ok (out ++ Item.ofPayload payload)
  | .fail e _ => .fail e out

def envelope (type : UInt8) (payload : Bytes) : Push := fun out =>
  if TypedEnvelope.isReserved type then .fail (.invalidEnvelopeType type) out
  else .ok (out ++ Item.ofString (type :: payload))

end Push

/-- A value behind what a buffer holds: the header first, then item by item. -/
def Value.write : Value -> Bytes -> Bytes
  | bytes data, out => out ++ Item.ofString data
  | list items, out =>
      let payload := items.foldr (fun v n => v.encodedLength + n) 0
      items.foldl (fun out v => write v out) (out ++ (Header.list payload).encode)

abbrev Writer (α : Type) := α -> Push

namespace Writer

def whole {α : Type} (w : Writer α) (x : α) : Except EncodeFault Bytes :=
  (w x []).result

def bytes : Writer Bytes := fun b out => .ok (out ++ Item.ofString b)

def uint {width : Nat} : Writer (Uint width) := fun n => bytes n.trimmed

def octets {width : Nat} : Writer (Octets width) := fun x => bytes x.bytes

def bool : Writer Bool := fun b => bytes (if b then [1] else [])

def value : Writer Value := fun v out => .ok (v.write out)

def raw : Writer RawItem := fun r out => .ok (out ++ r.bytes)

def list {α : Type} (w : Writer α) : Writer (List α) := fun xs => .enclosed (xs.map w)

end Writer

/-! ## Records of fields that are only known when the program runs -/

namespace RecordBuilder

def append {α : Type} (w : Writer α) (x : α) (r : RecordBuilder) :
    Option EncodeFault × RecordBuilder :=
  match w x r.payload with
  | .ok payload => (none, ⟨payload⟩)
  | .fail e payload => (some e, ⟨payload⟩)

def appendOptional {α : Type} (w : Writer α) (x : Option α) (r : RecordBuilder) :
    Option EncodeFault × RecordBuilder :=
  match x with
  | none => (none, r)
  | some x => r.append w x

def finishInto (r : RecordBuilder) (out : Bytes) : Bytes := out ++ r.finish

end RecordBuilder
end ChainWire
