import ChainWire.Text.Unsigned

/-!
# Log levels

How much is logged, from errors only up to everything.
-/

namespace ChainWire

/-- A log level; each one includes those before it. -/
inductive LogLevel where
  | error
  | warn
  | info
  | debug
  | trace
deriving DecidableEq, Repr, Inhabited

namespace LogLevel

def all : List LogLevel := [error, warn, info, debug, trace]

def name : LogLevel -> String
  | error => "error"
  | warn => "warn"
  | info => "info"
  | debug => "debug"
  | trace => "trace"

def upperName (l : LogLevel) : String :=
  l.name.map Char.toUpper

def rank : LogLevel -> Nat
  | error => 1
  | warn => 2
  | info => 3
  | debug => 4
  | trace => 5

def sameLetters (s t : List Char) : Bool :=
  s.map Char.toLower == t.map Char.toLower

/-- The level that a text denotes: its rank as a number, or its name in any case. -/
def ofText? (s : List Char) : Option LogLevel :=
  let byRank :=
    match Unsigned.parse Unsigned.bound64 s with
    | .ok n => all.find? fun l => l.rank == n
    | .error _ => none
  byRank <|> all.find? fun l => sameLetters s l.name.toList

/-- Whether a text denotes that nothing is logged: a zero, or the word for it. -/
def isOff (s : List Char) : Bool :=
  sameLetters s "off".toList ||
    match Unsigned.parse Unsigned.bound64 s with
    | .ok n => n == 0
    | .error _ => false

def rankOfText? (s : List Char) : Option Nat :=
  (ofText? s).map rank <|> if isOff s then some 0 else none

end LogLevel
end ChainWire
