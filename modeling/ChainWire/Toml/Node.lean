/-!
# Settings documents as trees

A document is a tree of tables, arrays and plain values.  Tables remember how
they came about, since that decides what may still be added to them.

Tables keep their entries in the order of the document.  Adding an entry fails
where a key or a table would be defined twice.
-/

namespace ChainWire
namespace Toml

inductive Origin where
  /-- By a header of its own, or as the whole document. -/
  | header
  /-- By a longer header that passes through it. -/
  | passage
  /-- By a dotted key that passes through it. -/
  | dotted
  /-- As a value in braces. -/
  | inline
deriving DecidableEq, Repr

/-- A value of a document.  Numbers with a point and dates are only told apart. -/
inductive Node where
  | string (text : String)
  | integer (value : Int)
  | float
  | boolean (value : Bool)
  | date
  | array (items : List Node)
  /-- An array of tables, one for each header in double brackets. -/
  | tables (items : List Node)
  | table (origin : Origin) (entries : List (String × Node))

abbrev Entries := List (String × Node)

namespace Entries

def replace (es : Entries) (key : String) (n : Node) : Entries :=
  es.map fun e => if e.1 == key then (key, n) else e

/-- Append an entry, dropping one of the same key. -/
def moveToEnd (es : Entries) (key : String) (n : Node) : Entries :=
  es.filter (fun e => e.1 != key) ++ [(key, n)]

/--
Change the table that a path leads to, making tables that are missing.  A path
of a dotted key does not lead into tables that have a header of their own, and
no path leads into a value.
-/
def changeAt (dotted : Bool) (change : Origin -> Entries -> Option Entries) :
    List String -> Origin -> Entries -> Option Entries
  | [], origin, es => change origin es
  | key :: path, _, es =>
      let made := if dotted then Origin.dotted else Origin.passage
      match es.lookup key with
      | none => do
          let sub <- changeAt dotted change path made []
          return es ++ [(key, .table made sub)]
      | some (.table origin sub) =>
          if origin = .inline || (dotted && origin = .header) then none
          else do
            let sub <- changeAt dotted change path origin sub
            return es.replace key (.table origin sub)
      | some (.tables items) =>
          match items.getLast? with
          | some (.table origin sub) => do
              let sub <- changeAt dotted change path origin sub
              return es.replace key (.tables (items.dropLast ++ [.table origin sub]))
          | _ => none
      | some _ => none

def insert (path : List String) (key : String) (n : Node) (origin : Origin) (es : Entries) :
    Option Entries :=
  changeAt true (fun origin es =>
      if (origin == .dotted) == path.isEmpty then none
      else if (es.lookup key).isSome then none
      else some (es ++ [(key, n)]))
    path origin es

def openTable (path : List String) (key : String) (es : Entries) : Option Entries :=
  changeAt false (fun _ es =>
      match es.lookup key with
      | none => some (es ++ [(key, .table .header [])])
      | some (.table .passage sub) => some (es.moveToEnd key (.table .header sub))
      | some _ => none)
    path .header es

def openTableOfArray (path : List String) (key : String) (es : Entries) : Option Entries :=
  changeAt false (fun _ es =>
      match es.lookup key with
      | none => some (es ++ [(key, .tables [.table .header []])])
      | some (.tables items) => some (es.replace key (.tables (items ++ [.table .header []])))
      | some _ => none)
    path .header es

def insertUnder (header path : List String) (key : String) (n : Node) (es : Entries) :
    Option Entries :=
  changeAt false (fun origin es => es.insert path key n origin) header .header es

end Entries
end Toml
end ChainWire
