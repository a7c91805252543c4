import ChainWire.Header

/-!
# Untyped values

What an item is when nothing is known about its meaning: a byte string, or a
list of values.  Every value has exactly one encoding, and reading refuses all
others.  Reading also refuses lists nested too deeply.
-/

namespace ChainWire

inductive Value where
  | bytes (data : Bytes)
  | list (items : List Value)
deriving Inhabited

namespace Value

/-- The most lists that may enclose an item of a value that is read. -/
def maxDepth : Nat := 128

def isList : Value -> Bool
  | bytes _ => false
  | list _ => true

def bytes? : Value -> Option Bytes
  | bytes data => some data
  | list _ => none

def items? : Value -> Option (List Value)
  | bytes _ => none
  | list items => some items

def encode : Value -> Bytes
  | bytes data => Item.ofString data
  | list items => Item.ofPayload (items.flatMap fun v => encode v)

def encodedLength : Value -> Nat
  | bytes data =>
      if data.length == 1 && Header.startsBare data then 1
      else (Header.string data.length).length + data.length
  | list items =>
      let payload := items.foldr (fun v n => encodedLength v + n) 0
      (Header.list payload).length + payload

/-- Read a value in which `levels - 1` lists may be nested. -/
def decodeWithin : Nat -> Decoder Value
  | 0, b => .fail (.malformed .nestingTooDeep) b
  | levels + 1, b =>
      (Header.decode b).andThen fun h rest =>
        let data := rest.take h.payloadLength
        let after := rest.drop h.payloadLength
        if h.isList then
          match Decoder.items (decodeWithin levels) data with
          | .ok items _ => .ok (list items) after
          | .fail e _ => .fail e after
        else .ok (bytes data) after

def decode : Decoder Value :=
  decodeWithin (maxDepth + 1)

end Value
end ChainWire
