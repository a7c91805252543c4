import ChainWire.Logging.Level
import ChainWire.Logging.Pattern
import ChainWire.Text.BytePlace

/-!
# Directives

A directive says up to which level events are let through: all of them, or
those that it names.

| form | events it is about |
|---|---|
| a level alone | all |
| a target, or a target, `=` and a level | those whose target starts with that text |
| either with `[span]` behind the target | those inside a span of that name |
| either with `[span{field}]` or `[span{field=value}]` | also by a field of the span or event |

The target may be missing where a bracket follows, and so may the span's name in
front of a field.  Without a level, or with an empty one, everything passes.

The form of a directive is read from its text without the blanks around it.  Its
parts are then taken from the text with those blanks, at the same byte places:
a blank in front moves each part, and a blank behind belongs to the last.
-/

namespace ChainWire

structure FieldMatch where
  name : List Char
  hasValue : Bool
deriving DecidableEq, Repr

/-- Which events to let through, up to which rank of level; zero is none. -/
structure Directive where
  target : Option (List Char)
  span : Option (List Char)
  field : Option FieldMatch
  rank : Nat
deriving DecidableEq, Repr

inductive DirectiveFault where
  | malformed
  | splitCharacter
deriving DecidableEq, Repr

namespace FieldMatch

/-- Digits without a sign, with a fraction or an exponent at most. -/
def isDecimal (s : List Char) : Bool :=
  let whole := s.takeWhile Char.isDigit
  let behindWhole := s.dropWhile Char.isDigit
  let hasPoint := behindWhole.head? == some '.'
  let inFraction := if hasPoint then behindWhole.drop 1 else []
  let behind := if hasPoint then inFraction.dropWhile Char.isDigit else behindWhole
  let isExponent :=
    match behind with
    | [] => true
    | mark :: digits =>
        let digits := match digits with
          | '+' :: rest | '-' :: rest => rest
          | _ => digits
        (mark == 'e' || mark == 'E') && !digits.isEmpty && digits.all Char.isDigit
  !(whole ++ inFraction.takeWhile Char.isDigit).isEmpty && isExponent

def isNumber (s : List Char) : Bool :=
  isDecimal s || ["inf", "infinity", "nan"].any fun w => LogLevel.sameLetters s w.toList

/--
Whether a text is a value to look for: a number or a pattern.  Only a number
with a plus sign is no pattern at the same time.
-/
def isValue (s : List Char) : Bool :=
  Pattern.isWellFormed s || (s.head? == some '+' && isNumber (s.drop 1))

/-- A field in braces: its name, and its value up to another equals sign. -/
def parse (s : List Char) : Except DirectiveFault FieldMatch :=
  let name := s.takeWhile fun c => c != '='
  match s.drop name.length with
  | [] => if name.isEmpty then .error .malformed else .ok ⟨name, false⟩
  | _ :: behind =>
      if isValue (behind.takeWhile fun c => c != '=') then .ok ⟨name, true⟩
      else .error .malformed

end FieldMatch

namespace Directive

def everything : Nat := LogLevel.trace.rank

def part (text : List Char) (start stop : Nat) : Except DirectiveFault (List Char) :=
  match BytePlace.between? start stop text with
  | some s => .ok s
  | none => .error .splitCharacter

/-- The rank that a text denotes from a byte place on; an empty one is everything. -/
def rankFrom (text : List Char) (start : Nat) : Except DirectiveFault Nat :=
  match BytePlace.from? start text with
  | none => .error .splitCharacter
  | some [] => .ok everything
  | some level =>
      match LogLevel.rankOfText? level with
      | some rank => .ok rank
      | none => .error .malformed

def rankAfterSpan (text : List Char) (place : Nat) : List Char -> Except DirectiveFault Nat
  | [] => .ok everything
  | '=' :: _ => rankFrom text (place + 1)
  | _ => .error .malformed

def parseSpan (text : List Char) (target : Option (List Char)) (start : Nat)
    (unread : List Char) : Except DirectiveFault Directive := do
  let shown := unread.takeWhile fun c => c != ']' && c != '\x7b'
  let stop := start + BytePlace.size shown
  match unread.drop shown.length with
  | [] => throw .malformed
  | ']' :: behind =>
      let span <- part text start stop
      return ⟨target, some span, none, <- rankAfterSpan text (stop + 1) behind⟩
  | _ :: inField =>
      let span <- part text start stop
      let shown := inField.takeWhile fun c => c != '\x7d'
      let fieldStop := stop + 1 + BytePlace.size shown
      match inField.drop shown.length with
      | [] => throw .malformed
      | _ :: closing =>
          let field <- FieldMatch.parse (<- part text (stop + 1) fieldStop)
          match closing with
          | ']' :: behind =>
              let named := if span.isEmpty then none else some span
              return ⟨target, named, some field, <- rankAfterSpan text (fieldStop + 2) behind⟩
          | _ => throw .malformed

def startsTarget (c : Char) : Bool :=
  ['-', ':', '_'].contains c || Alphanumeric.isAlphanumeric c

/-- A text without marks is a level, or else a target. -/
def ofWord (s : List Char) : Directive :=
  match LogLevel.rankOfText? s with
  | some rank => ⟨none, none, none, rank⟩
  | none => ⟨some s, none, none, everything⟩

def parse (text : List Char) : Except DirectiveFault Directive := do
  match Blank.trim text with
  | [] => throw .malformed
  | '[' :: unread => parseSpan text none 1 unread
  | c :: rest =>
      if !startsTarget c then throw .malformed
      let shown := (c :: rest).takeWhile fun c => c != '=' && c != '['
      let stop := BytePlace.size shown
      match (c :: rest).drop shown.length with
      | [] => return ofWord text
      | '=' :: _ =>
          let target <- part text 0 stop
          return ⟨some target, none, none, <- rankFrom text (stop + 1)⟩
      | _ :: unread => parseSpan text (some (<- part text 0 stop)) (stop + 1) unread

end Directive
end ChainWire
