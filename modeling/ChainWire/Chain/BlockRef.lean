import ChainWire.Codec

/-!
# References to blocks

A block is named by its hash or by its number.  No tag travels: a byte string
of 32 bytes is a hash, and a number never takes more than eight.
-/

namespace ChainWire

inductive BlockRef where
  | hash (hash : Hash)
  | number (number : Uint 8)
deriving DecidableEq

namespace BlockRef

instance : Inhabited BlockRef := ⟨.number default⟩

/-- A reference from two optional parts, exactly one of which must be given. -/
def ofParts : Option Hash -> Option (Uint 8) -> Except EncodeFault BlockRef
  | some h, none => .ok (.hash h)
  | none, some n => .ok (.number n)
  | some _, some _ => .error .ambiguousUnion
  | none, none => .error .emptyUnion

def hash? : BlockRef -> Option Hash
  | hash h => some h
  | number _ => none

def number? : BlockRef -> Option (Uint 8)
  | hash _ => none
  | number n => some n

def display : BlockRef -> String
  | hash h => s!"Hash({h.display})"
  | number n => s!"Number({n.toNat})"

end BlockRef

/-- The length of the byte string tells a hash from a number. -/
def Codec.blockRef : Codec BlockRef where
  encode
    | .hash h => .ok h.encode
    | .number n => .ok n.encode
  decode b :=
    (Header.peek b).andThen fun h b =>
      if h.isList then .fail .unexpectedList b
      else if h.payloadLength = 32 then (Octets.decode b).map .hash
      else (Uint.decode b).map .number

end ChainWire
