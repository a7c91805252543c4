import ChainWire.Text.Alphanumeric
import ChainWire.Text.Blank

/-!
# Patterns for field values

Which texts are patterns: groups and classes are closed, a repetition has
something to repeat, escapes are known.  A closing brace ends the place where a
pattern stands, so nothing that needs one is a pattern.

Characters are read in full unless the flag for that is switched off.  No table
of properties comes with them, so what would need one is refused: the classes
and word borders of full characters, and ignoring their case.
-/

namespace ChainWire
namespace Pattern

structure Mode where
  ignoresCase : Bool
  fullCharacters : Bool
  spaced : Bool
deriving DecidableEq, Repr

def Mode.initial : Mode := ⟨false, true, false⟩

/-- Switch one flag on or off; the other flags change no verdict. -/
def Mode.set (m : Mode) (flag : Char) (on : Bool) : Mode :=
  if flag == 'i' then { m with ignoresCase := on }
  else if flag == 'u' then { m with fullCharacters := on }
  else if flag == 'x' then { m with spaced := on }
  else m

def skipSpace : Bool -> List Char -> List Char
  | _, [] => []
  | true, c :: rest => skipSpace (c != '\n') rest
  | false, c :: rest =>
      if c == '#' then skipSpace true rest
      else if Blank.isBlank c then skipSpace false rest
      else c :: rest

def Mode.skip (m : Mode) (s : List Char) : List Char :=
  if m.spaced then skipSpace false s else s

/-! ## Escapes -/

inductive Escape where
  | literal (c : Char)
  | octet (c : Char)
  | charClass (negated : Bool)
  | edge
  | wordBorder
deriving DecidableEq, Repr

def hexValue? (c : Char) : Option Nat :=
  if c.isDigit then some (c.toNat - 48)
  else if 'a' <= c && c <= 'f' then some (c.toNat - 87)
  else if 'A' <= c && c <= 'F' then some (c.toNat - 55)
  else none

def hexNumber? : Nat -> Nat -> List Char -> Option (Nat × List Char)
  | 0, n, s => some (n, s)
  | _ + 1, _, [] => none
  | count + 1, n, c :: rest => do hexNumber? count (n * 16 + (<- hexValue? c)) rest

def hexChar? (count : Nat) (s : List Char) : Option (Char × List Char) := do
  let (n, rest) <- hexNumber? count 0 s
  if n.isValidChar then some (Char.ofNat n, rest) else none

def isQuotable (c : Char) : Bool :=
  c.toNat < 128 && !c.isAlphanum && c != '<' && c != '>'

def escape? : List Char -> Option (Escape × List Char)
  | [] => none
  | c :: rest =>
      if c == 'x' then (hexChar? 2 rest).map fun r => (.octet r.1, r.2)
      else if c == 'u' then (hexChar? 4 rest).map fun r => (.literal r.1, r.2)
      else if c == 'U' then (hexChar? 8 rest).map fun r => (.literal r.1, r.2)
      else if isQuotable c || ['a', 'f', 't', 'n', 'r', 'v'].contains c then
        some (.literal c, rest)
      else if ['d', 's', 'w'].contains c then some (.charClass false, rest)
      else if ['D', 'S', 'W'].contains c then some (.charClass true, rest)
      else if ['A', 'z'].contains c then some (.edge, rest)
      else if ['b', 'B', '<', '>'].contains c then some (.wordBorder, rest)
      else none

def Mode.allows (m : Mode) : Escape -> Bool
  | .literal _ => !(m.ignoresCase && m.fullCharacters)
  | .octet c => if m.fullCharacters then !m.ignoresCase else c.toNat < 128
  | .charClass negated => !m.fullCharacters && !negated
  | .edge => true
  | .wordBorder => !m.fullCharacters

/-! ## Classes -/

def asciiClassNames : List (List Char) :=
  ["alnum", "alpha", "ascii", "blank", "cntrl", "digit", "graph", "lower", "print",
    "punct", "space", "upper", "word", "xdigit"].map String.toList

/--
A named class of ASCII characters behind its opening bracket: whether it is
negated, and the text behind its closing bracket.
-/
def asciiClass? : List Char -> Option (Bool × List Char)
  | ':' :: s =>
      let negated := s.head? == some '^'
      let named := if negated then s.drop 1 else s
      match named.dropWhile fun c => c != ':' with
      | ':' :: ']' :: rest =>
          if asciiClassNames.contains (named.takeWhile fun c => c != ':') then
            some (negated, rest)
          else none
      | _ => none
  | _ => none

/-- The dashes in front of a class stand for themselves. -/
def skipDashes (m : Mode) : Nat -> List Char -> List Char
  | 0, s => s
  | n + 1, s =>
      match s with
      | '-' :: rest => skipDashes m n (m.skip rest)
      | _ => s

/--
What stands behind the opening bracket of a class, up to its first member.  A
closing bracket right at the start stands for itself.
-/
def openClass? (m : Mode) (s : List Char) : Option (List Char) :=
  let s := m.skip s
  let negated := s.head? == some '^'
  let inner := if negated then m.skip (s.drop 1) else s
  let members := skipDashes m inner.length inner
  if negated && !m.fullCharacters then none
  else
    match members with
    | ']' :: rest => if inner.head? == some '-' then some members else some (m.skip rest)
    | _ => some members

/-- A member of a class, and the text behind it; only a literal can end a range. -/
def member? (m : Mode) : List Char -> Option (Option Char × List Char)
  | [] => none
  | '\\' :: s => do
      let (e, rest) <- escape? s
      match e with
      | .literal c | .octet c =>
          if m.fullCharacters || c.toNat < 128 then some (some c, rest) else none
      | .charClass _ => if m.allows e then some (none, rest) else none
      | .edge | .wordBorder => none
  | c :: rest => if m.fullCharacters || c.toNat < 128 then some (some c, rest) else none

def memberOrRange? (m : Mode) (s : List Char) : Option (List Char) := do
  let (low, rest) <- member? m s
  let rest := m.skip rest
  match rest with
  | '-' :: behind =>
      let behind := m.skip behind
      if behind.head? == some ']' || behind.head? == some '-' then some rest
      else
        let (high, rest) <- member? m behind
        if (<- low).toNat <= (<- high).toNat then some rest else none
  | _ => some rest

/--
The text behind a class, read from one of its members on, with so many classes
open around it.  Every step reads a character, so the length of the text is
enough steps.
-/
def classTail? (m : Mode) : Nat -> Nat -> List Char -> Option (List Char)
  | 0, _, _ => none
  | steps + 1, depth, s =>
      match m.skip s with
      | ']' :: rest => if depth == 0 then some rest else classTail? m steps (depth - 1) rest
      | '[' :: rest =>
          match asciiClass? rest with
          | some (negated, rest) =>
              if negated && !m.fullCharacters then none else classTail? m steps depth rest
          | none => do classTail? m steps (depth + 1) (<- openClass? m rest)
      | '&' :: '&' :: rest | '-' :: '-' :: rest | '~' :: '~' :: rest =>
          classTail? m steps depth rest
      | members => do classTail? m steps depth (<- memberOrRange? m members)

def class? (m : Mode) (s : List Char) : Option (List Char) :=
  if m.fullCharacters && m.ignoresCase then none
  else do classTail? m (s.length + 1) 0 (<- openClass? m s)

/-! ## Groups -/

structure Progress where
  mode : Mode
  outer : List Mode
  names : List (List Char)
  repeatable : Bool
deriving DecidableEq, Repr

def flagMarks : List Char := ['-', 'i', 'm', 's', 'U', 'u', 'R', 'x']

/--
Flags up to the mark that ends them, each at most once, with the mode they
lead to.  A minus sign switches off what follows it, and something must.
-/
def flags? (m : Mode) (seen : List Char) : List Char -> Option (Mode × List Char)
  | [] => none
  | c :: rest =>
      if c == ':' || c == ')' then
        if seen.head? == some '-' || (c == ')' && seen.isEmpty) then none
        else some (m, c :: rest)
      else if seen.contains c || !flagMarks.contains c then none
      else flags? (m.set c !(seen.contains '-')) (c :: seen) rest

def isGroupName : List Char -> Bool
  | [] => false
  | c :: rest =>
      (c == '_' || Alphanumeric.isAlphabetic c) &&
        rest.all fun c => ['_', '.', '[', ']'].contains c || Alphanumeric.isAlphanumeric c

def openNamed? (p : Progress) (s : List Char) : Option (Progress × List Char) :=
  let name := s.takeWhile fun c => c != '>'
  match s.drop name.length with
  | [] => none
  | _ :: rest =>
      if isGroupName name && !p.names.contains name then
        some (⟨p.mode, p.mode :: p.outer, name :: p.names, false⟩, rest)
      else none

def openGroup? (p : Progress) : List Char -> Option (Progress × List Char)
  | '?' :: 'P' :: '<' :: s | '?' :: '<' :: s => openNamed? p s
  | '?' :: s => do
      let (m, rest) <- flags? p.mode [] s
      match rest with
      | ':' :: rest => some (⟨m, p.mode :: p.outer, p.names, false⟩, rest)
      | _ => some ({ p with mode := m, repeatable := false }, rest.drop 1)
  | s => some (⟨p.mode, p.mode :: p.outer, p.names, false⟩, s)

/-! ## Patterns -/

/--
What is left after one part of a pattern, if that is well formed.  The first
argument is the text from that part on, without the space in front of it.
-/
def part? (p : Progress) : List Char -> Option (Progress × List Char)
  | [] => none
  | '(' :: rest => openGroup? p (p.mode.skip rest)
  | ')' :: rest =>
      match p.outer with
      | [] => none
      | m :: outer => some ({ p with mode := m, outer := outer, repeatable := true }, rest)
  | '|' :: rest => some ({ p with repeatable := false }, rest)
  | '?' :: rest | '*' :: rest | '+' :: rest =>
      if !p.repeatable then none
      else if rest.head? == some '?' then some (p, rest.drop 1)
      else some (p, rest)
  | '\x7b' :: _ => none
  | '[' :: rest => (class? p.mode rest).map fun rest => ({ p with repeatable := true }, rest)
  | '.' :: rest =>
      if p.mode.fullCharacters then some ({ p with repeatable := true }, rest) else none
  | '^' :: rest | '$' :: rest => some ({ p with repeatable := true }, rest)
  | '\\' :: s => do
      let (e, rest) <- escape? s
      if p.mode.allows e then some ({ p with repeatable := true }, rest) else none
  | c :: rest =>
      if p.mode.allows (.literal c) then some ({ p with repeatable := true }, rest) else none

def restIsWellFormed : Nat -> Progress -> List Char -> Bool
  | 0, _, _ => false
  | steps + 1, p, s =>
      match p.mode.skip s with
      | [] => p.outer.isEmpty
      | next =>
          match part? p next with
          | none => false
          | some (p, rest) => restIsWellFormed steps p rest

def isWellFormed (s : List Char) : Bool :=
  restIsWellFormed (s.length + 1) ⟨.initial, [], [], false⟩ s

end Pattern
end ChainWire
