import ChainWire.Toml.Scan

/-!
# Settings documents

Reading a whole document: lines that hold a key with a value, or the header of
a table.  Arrays may run over several lines; tables in braces may not.
-/

namespace ChainWire
namespace Toml

/-- How many keys a dotted key may have, and how deep values may be nested. -/
def nestingLimit : Nat := 80

def isBareKeyChar (c : Char) : Bool :=
  c.isAlphanum || c == '_' || c == '-'

def simpleKey : Scan String := fun s =>
  match s.takeWhile isBareKeyChar with
  | [] => shortString s
  | bare => some (String.ofList bare, s.drop bare.length)

/-- Keys joined by dots, with space around them, the last key apart. -/
def dottedKey (fuel : Nat) (path : List String) : Scan (List String × String) := fun s =>
  match fuel with
  | 0 => none
  | fuel + 1 => do
      let (key, s) <- simpleKey (skipBlanks s)
      match skipBlanks s with
      | '.' :: rest => dottedKey fuel (path ++ [key]) rest
      | rest => return ((path, key), rest)

def key : Scan (List String × String) := dottedKey (nestingLimit - 1) []

def arrayItems (value : Scan Node) (fuel : Nat) (acc : List Node) : Scan (List Node) :=
  fun s =>
    match fuel with
    | 0 => none
    | fuel + 1 => do
        let s <- skipLines false s
        match s with
        | ']' :: rest => return (acc.reverse, rest)
        | s =>
            let (item, s) <- value s
            let s <- skipLines false s
            match s with
            | ',' :: rest => arrayItems value fuel (item :: acc) rest
            | ']' :: rest => return ((item :: acc).reverse, rest)
            | _ => none

def keyValue (value : Scan Node) : Scan (List String × String × Node) := fun s => do
  let ((path, key), s) <- key s
  let (_, s) <- mark '=' (skipBlanks s)
  let (node, s) <- value (skipBlanks s)
  return ((path, key, node), s)

def inlineEntries (value : Scan Node) (fuel : Nat) (acc : Entries) : Scan Entries := fun s =>
  match fuel with
  | 0 => none
  | fuel + 1 => do
      let ((path, key, node), s) <- keyValue value s
      let acc <- acc.insert path key node .inline
      match skipBlanks s with
      | ',' :: rest => inlineEntries value fuel acc rest
      | '}' :: rest => return (acc, rest)
      | _ => none

/-- A value in which arrays and tables may be nested `levels` deep. -/
def valueWithin : Nat -> Scan Node
  | _, '"' :: s => (anyString ('"' :: s)).map fun (t, rest) => (.string t, rest)
  | _, '\'' :: s => (anyString ('\'' :: s)).map fun (t, rest) => (.string t, rest)
  | 0, '[' :: _ => none
  | 0, '\x7b' :: _ => none
  | levels + 1, '[' :: s => do
      -- No item is empty, so there are rounds enough for all of them.
      let (items, rest) <- arrayItems (valueWithin levels) (s.length + 1) [] s
      return (.array items, rest)
  | levels + 1, '\x7b' :: s =>
      match skipBlanks s with
      | '}' :: rest => some (.table .inline [], rest)
      | s => do
          let (entries, rest) <- inlineEntries (valueWithin levels) (s.length + 1) [] s
          return (.table .inline entries, rest)
  | _, s => plain s

def value : Scan Node := valueWithin (nestingLimit - 1)

structure Draft where
  entries : Entries
  header : List String

def line (d : Draft) (s : List Char) : Option (Draft × List Char) :=
  match skipBlanks s with
  | '[' :: '[' :: rest => do
      let ((path, key), rest) <- key rest
      let (_, rest) <- mark ']' (skipBlanks rest)
      let (_, rest) <- mark ']' rest
      let entries <- d.entries.openTableOfArray path key
      return (⟨entries, path ++ [key]⟩, rest)
  | '[' :: rest => do
      let ((path, key), rest) <- key rest
      let (_, rest) <- mark ']' (skipBlanks rest)
      let entries <- d.entries.openTable path key
      return (⟨entries, path ++ [key]⟩, rest)
  | [] => some (d, [])
  | c :: rest =>
      if c == '#' || c == '\n' || c == '\r' then some (d, c :: rest)
      else do
        let ((path, key, node), rest) <- keyValue value (c :: rest)
        let entries <- d.entries.insertUnder d.header path key node
        return (⟨entries, d.header⟩, rest)

def lines (fuel : Nat) (d : Draft) (s : List Char) : Option Entries :=
  match fuel, s with
  | _, [] => some d.entries
  | 0, _ => none
  | fuel + 1, s => do
      let (d, rest) <- line d s
      let (_, rest) <- lineEnd rest
      lines fuel d rest

def parse (text : String) : Option Entries :=
  let s := text.toList
  let s := if s.head? == some '\ufeff' then s.drop 1 else s
  lines (s.length + 1) ⟨[], []⟩ s

end Toml
end ChainWire
