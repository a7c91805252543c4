/-!
# Strings as they are written

A string is written without escapes where it can be: in double quotes, else in
single quotes, else over several lines in three double quotes or three single
quotes.  Where none of these will do, it is written in double quotes with
escapes, over several lines if it holds a line break.
-/

namespace ChainWire
namespace Toml
namespace Quoted

/-- Whether a character stands for itself in no string. -/
def isControl (c : Char) : Bool :=
  c.toNat <= 0x1F || c.toNat == 0x7F

def longestRun (x : Char) : List Char -> Nat -> Nat
  | [], run => run
  | c :: rest, run =>
      if c == x then longestRun x rest (run + 1) else max run (longestRun x rest 0)

inductive Quotes where
  | basic
  | literal
  | multilineBasic
  | multilineLiteral
deriving DecidableEq, Repr

def Quotes.text : Quotes -> String
  | basic => "\""
  | literal => "'"
  | multilineBasic => "\"\"\""
  | multilineLiteral => "'''"

/-- The first quotes in which a string needs no escapes, or those it has to do with. -/
def quotesFor (s : List Char) : Quotes :=
  let control := s.any fun c => isControl c && c != '\t' && c != '\n'
  let newline := s.contains '\n'
  let backslash := s.contains '\\'
  let doubles := longestRun '"' s 0
  let singles := longestRun '\'' s 0
  if !control && !newline && !backslash && doubles = 0 then .basic
  else if !control && !newline && singles = 0 then .literal
  else if !control && !backslash && doubles <= 2 then .multilineBasic
  else if !control && singles <= 2 then .multilineLiteral
  else if newline then .multilineBasic
  else .basic

def escaped (multiline : Bool) (c : Char) : List Char :=
  if c == '\n' && multiline then ['\n']
  else if c == '\x08' then ['\\', 'b']
  else if c == '\t' then ['\\', 't']
  else if c == '\n' then ['\\', 'n']
  else if c == '\x0c' then ['\\', 'f']
  else if c == '\r' then ['\\', 'r']
  else if c == '\\' then ['\\', '\\']
  else if isControl c then
    let digits := (Nat.toDigits 16 c.toNat).map Char.toUpper
    ['\\', 'u'] ++ List.replicate (4 - digits.length) '0' ++ digits
  else [c]

/--
Text between double quotes, after `run` double quotes.  Over several lines, up
to two of them in a row stand for themselves.
-/
def escape (multiline : Bool) : List Char -> Nat -> List Char
  | [], _ => []
  | '"' :: rest, run =>
      if multiline && run < 2 then '"' :: escape multiline rest (run + 1)
      else '\\' :: '"' :: escape multiline rest 0
  | c :: rest, _ => escaped multiline c ++ escape multiline rest 0

/-- A string with its quotes; a line break after the opening ones is no content. -/
def write (text : String) : String :=
  let s := text.toList
  let quotes := quotesFor s
  let body :=
    match quotes with
    | .basic => String.ofList (escape false s 0)
    | .multilineBasic => String.ofList (escape true s 0)
    | .literal | .multilineLiteral => text
  let opening := if s.contains '\n' then quotes.text ++ "\n" else quotes.text
  opening ++ body ++ quotes.text

end Quoted
end Toml
end ChainWire
