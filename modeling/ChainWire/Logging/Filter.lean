import ChainWire.Logging.Directive

/-!
# Log filters

A filter is a list of directives between commas, and one malformed directive
spoils it.  Of the directives that apply to an event, the most specific decides:
the one with the longest target, then one with a field over one without, then
the field that comes last in order, and of equals the last directive.

A directive that names a span, or the value of a field, only matters inside a
span.  Events here are in none, so such a directive never decides.
-/

namespace ChainWire

structure EventShape where
  target : String
  level : LogLevel
  fields : List String
deriving DecidableEq, Repr

structure LogFilter where
  directives : List Directive
deriving DecidableEq, Repr

namespace Directive

/-- Whether a directive can decide outside spans. -/
def needsNoSpan (d : Directive) : Bool :=
  d.span.isNone && !d.field.any fun f => f.hasValue

def appliesTo (d : Directive) (e : EventShape) : Bool :=
  d.needsNoSpan && d.target.all (fun t => t.isPrefixOf e.target.toList) &&
    d.field.all fun f => e.fields.any fun name => name.toList == f.name

/-- How specific a directive is by its target: one without a target is the least. -/
def weight (d : Directive) : Nat :=
  match d.target with
  | none => 0
  | some t => t.length + 1

def fieldName (d : Directive) : List Char :=
  match d.field with
  | none => []
  | some f => f.name

/-- Whether a directive gives way to one that stands behind it. -/
def yieldsTo (d later : Directive) : Bool :=
  d.weight < later.weight ||
    (d.weight == later.weight &&
      !List.lex later.fieldName d.fieldName fun a b => a.toNat < b.toNat)

end Directive

namespace LogFilter

def pieces (s : List Char) : List (List Char) :=
  (s.splitBy (fun a b => a != ',' && b != ',')).filter fun p => p != [','] && !p.isEmpty

def parse (text : String) : Except DirectiveFault LogFilter := do
  return ⟨<- (pieces text.toList).mapM Directive.parse⟩

def ofLevel (target : String) (l : LogLevel) : LogFilter :=
  ⟨[⟨some target.toList, none, none, l.rank⟩]⟩

def deciding? (f : LogFilter) (e : EventShape) : Option Directive :=
  (f.directives.filter fun d => d.appliesTo e).foldl (fun best d =>
    match best with
    | none => some d
    | some b => if b.yieldsTo d then some d else some b) none

/-- Whether an event passes; without directives, errors do. -/
def allows (f : LogFilter) (e : EventShape) : Bool :=
  if f.directives.isEmpty then e.level.rank <= LogLevel.error.rank
  else
    match f.deciding? e with
    | none => false
    | some d => e.level.rank <= d.rank

end LogFilter
end ChainWire
