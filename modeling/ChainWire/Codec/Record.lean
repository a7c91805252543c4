import ChainWire.Codec

/-!
# Records

A record is a list whose items are its fields, in a fixed order.  Fields are
put together from single ones, and the last may be optional: an absent optional
field takes no place at all.

A reader counts exactly.  A missing field and a field too many are the same
fault, which names the record.
-/

namespace ChainWire

namespace Decoder

def field {α : Type} (item : String) (d : Decoder α) : Decoder α := fun b =>
  if b.isEmpty then .fail (.fieldCountMismatch item) b else d b

def optionalField {α : Type} (d : Decoder α) : Decoder (Option α) := fun b =>
  if b.isEmpty then .ok none b else (d b).map some

def noMoreFields (item : String) : Decoder Unit := fun b =>
  if b.isEmpty then .ok () b else .fail (.fieldCountMismatch item) b

def record {α : Type} (item : String) (fields : Decoder α) : Decoder α := fun b =>
  (Item.payload b).andThen fun payload rest =>
    match fields payload with
    | .ok x left =>
        match noMoreFields item left with
        | .ok _ _ => .ok x rest
        | .fail e _ => .fail e rest
    | .fail e _ => .fail e rest

end Decoder

structure Fields (α : Type) where
  encode : α -> Except EncodeFault Bytes
  decode : String -> Decoder α

namespace Fields

def one {α : Type} (c : Codec α) : Fields α where
  encode := c.encode
  decode item := Decoder.field item c.decode

/-- A single field that may be absent; it must be the last. -/
def optional {α : Type} (c : Codec α) : Fields (Option α) where
  encode
    | none => .ok []
    | some x => c.encode x
  decode _ := Decoder.optionalField c.decode

def and {α β : Type} (f : Fields α) (g : Fields β) : Fields (α × β) where
  encode p := do
    let first <- f.encode p.1
    let second <- g.encode p.2
    return first ++ second
  decode item b :=
    (f.decode item b).andThen fun x rest => (g.decode item rest).map fun y => (x, y)

def cons {α β : Type} (c : Codec α) (g : Fields β) : Fields (α × β) :=
  (one c).and g

end Fields

namespace Codec

/-- Records of the given fields; faults call the record `item`. -/
def record {α : Type} (item : String) (fields : Fields α) : Codec α where
  encode x := (fields.encode x).map Item.ofPayload
  decode := Decoder.record item (fields.decode item)

end Codec

/-! ## Records of fields that are only known when the program runs -/

structure RecordBuilder where
  payload : Bytes
deriving DecidableEq, Repr

namespace RecordBuilder

def empty : RecordBuilder := ⟨[]⟩

/-- Append a field.  A field that cannot be written leaves the record as it was. -/
def push {α : Type} (c : Codec α) (x : α) (r : RecordBuilder) :
    Except EncodeFault RecordBuilder :=
  (c.encode x).map fun b => ⟨r.payload ++ b⟩

def pushOptional {α : Type} (c : Codec α) (x : Option α) (r : RecordBuilder) :
    Except EncodeFault RecordBuilder :=
  match x with
  | none => .ok r
  | some x => r.push c x

def finish (r : RecordBuilder) : Bytes := Item.ofPayload r.payload

end RecordBuilder
end ChainWire
