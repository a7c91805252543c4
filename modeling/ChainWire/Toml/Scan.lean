import ChainWire.Toml.Node

/-!
# Tokens of settings documents

Reading strings, numbers, dates and the space between them from the front of a
text.  A scanner gives what it read and the rest, or nothing if the text does
not start with what it looks for.
-/

namespace ChainWire
namespace Toml

/-- Reads something from the front of a text. -/
abbrev Scan (α : Type) := List Char -> Option (α × List Char)

/-! ## Space and comments -/

def isInlineBlank (c : Char) : Bool := c == ' ' || c == '\t'

def isVisible (c : Char) : Bool :=
  c == '\t' || (0x20 <= c.toNat && c.toNat != 0x7F)

def skipBlanks (s : List Char) : List Char := s.dropWhile isInlineBlank

def newline : Scan Unit
  | '\n' :: rest => some ((), rest)
  | '\r' :: '\n' :: rest => some ((), rest)
  | _ => none

def skipComment (s : List Char) : List Char :=
  match s with
  | '#' :: rest => rest.dropWhile isVisible
  | _ => s

def lineEnd : Scan Unit := fun s =>
  match skipComment (skipBlanks s) with
  | [] => some ((), [])
  | rest => newline rest

/-- Drop space, line breaks and comments; a comment must end in a line break. -/
def skipLines : Bool -> List Char -> Option (List Char)
  | false, '\n' :: rest => skipLines false rest
  | false, '\r' :: '\n' :: rest => skipLines false rest
  | false, '#' :: rest => skipLines true rest
  | false, c :: rest => if isInlineBlank c then skipLines false rest else some (c :: rest)
  | false, [] => some []
  | true, '\n' :: rest => skipLines false rest
  | true, '\r' :: '\n' :: rest => skipLines false rest
  | true, c :: rest => if isVisible c then skipLines true rest else none
  | true, [] => none

/-!
## Strings

An escape takes several characters at once, so these scanners count rounds: one
for each character of the text, and one for its end.
-/

def hexDigit? (c : Char) : Option Nat :=
  if c.isDigit then some (c.toNat - 48)
  else if 'a' <= c && c <= 'f' then some (c.toNat - 87)
  else if 'A' <= c && c <= 'F' then some (c.toNat - 55)
  else none

def codePoint? (digits : List Char) : Option Char := do
  let values <- digits.mapM hexDigit?
  let n := values.foldl (fun acc d => acc * 16 + d) 0
  if n < 0xD800 || (0xDFFF < n && n < 0x110000) then some (Char.ofNat n) else none

def shortEscape? : Char -> Option Char
  | 'b' => some '\x08'
  | 't' => some '\t'
  | 'n' => some '\n'
  | 'f' => some '\x0c'
  | 'r' => some '\r'
  | '"' => some '"'
  | '\\' => some '\\'
  | _ => none

def escape : Scan Char
  | [] => none
  | c :: rest =>
      match shortEscape? c with
      | some x => some (x, rest)
      | none =>
          let count := if c == 'u' then 4 else if c == 'U' then 8 else 0
          if count = 0 || rest.length < count then none
          else (codePoint? (rest.take count)).map fun x => (x, rest.drop count)

def basicString (fuel : Nat) (acc : List Char) : Scan String := fun s =>
  match fuel, s with
  | 0, _ | _, [] => none
  | _ + 1, '"' :: rest => some (String.ofList acc.reverse, rest)
  | fuel + 1, '\\' :: rest => do
      let (c, rest) <- escape rest
      basicString fuel (c :: acc) rest
  | fuel + 1, c :: rest =>
      if isVisible c then basicString fuel (c :: acc) rest else none

def literalString : (acc : List Char) -> Scan String
  | _, [] => none
  | acc, '\'' :: rest => some (String.ofList acc.reverse, rest)
  | acc, c :: rest => if isVisible c then literalString (c :: acc) rest else none

/-- The quotes at the end of a string over several lines: up to two are content. -/
def closingQuotes (quote : Char) (acc : List Char) : Scan String := fun s =>
  let extra := min ((s.takeWhile (fun c => c == quote)).length - 3) 2
  some (String.ofList (List.replicate extra quote ++ acc).reverse, s.drop (extra + 3))

def skipBlankLines : List Char -> List Char
  | '\n' :: rest => skipBlankLines rest
  | '\r' :: '\n' :: rest => skipBlankLines rest
  | c :: rest => if isInlineBlank c then skipBlankLines rest else c :: rest
  | [] => []

def skipLineEscape (s : List Char) : Option (List Char) := do
  let (_, rest) <- newline (skipBlanks s)
  return skipBlankLines rest

def multilineBasic (fuel : Nat) (acc : List Char) : Scan String := fun s =>
  match fuel, s with
  | 0, _ | _, [] => none
  | _ + 1, '"' :: '"' :: '"' :: _ => closingQuotes '"' acc s
  | fuel + 1, '\\' :: rest =>
      match skipLineEscape rest with
      | some rest => multilineBasic fuel acc rest
      | none => do
          let (c, rest) <- escape rest
          multilineBasic fuel (c :: acc) rest
  | fuel + 1, '\r' :: '\n' :: rest | fuel + 1, '\n' :: rest =>
      multilineBasic fuel ('\n' :: acc) rest
  | fuel + 1, c :: rest =>
      if isVisible c then multilineBasic fuel (c :: acc) rest else none

def multilineLiteral (fuel : Nat) (acc : List Char) : Scan String := fun s =>
  match fuel, s with
  | 0, _ | _, [] => none
  | _ + 1, '\'' :: '\'' :: '\'' :: _ => closingQuotes '\'' acc s
  | fuel + 1, '\r' :: '\n' :: rest | fuel + 1, '\n' :: rest =>
      multilineLiteral fuel ('\n' :: acc) rest
  | fuel + 1, c :: rest =>
      if isVisible c then multilineLiteral fuel (c :: acc) rest else none

/-- A line break at the very start of a string over several lines is no content. -/
def skipFirstNewline (s : List Char) : List Char :=
  match newline s with
  | some (_, rest) => rest
  | none => s

def shortString : Scan String
  | '"' :: rest => basicString (rest.length + 1) [] rest
  | '\'' :: rest => literalString [] rest
  | _ => none

def anyString : Scan String
  | '"' :: '"' :: '"' :: rest =>
      let body := skipFirstNewline rest
      multilineBasic (body.length + 1) [] body
  | '\'' :: '\'' :: '\'' :: rest =>
      let body := skipFirstNewline rest
      multilineLiteral (body.length + 1) [] body
  | s => shortString s

/-! ## Numbers -/

/-- Digits after a first one; a single underscore may stand before each of them. -/
def moreDigits (isDigit : Char -> Bool) : List Char -> List Char × List Char
  | '_' :: c :: rest =>
      if isDigit c then
        let (digits, left) := moreDigits isDigit rest
        (c :: digits, left)
      else ([], '_' :: c :: rest)
  | c :: rest =>
      if isDigit c then
        let (digits, left) := moreDigits isDigit rest
        (c :: digits, left)
      else ([], c :: rest)
  | [] => ([], [])

def digitRun (isDigit : Char -> Bool) : Scan (List Char)
  | c :: rest =>
      if isDigit c then
        let (digits, left) := moreDigits isDigit rest
        some (c :: digits, left)
      else none
  | [] => none

def sign : List Char -> Bool × List Char
  | '-' :: rest => (true, rest)
  | '+' :: rest => (false, rest)
  | s => (false, s)

def decimalDigits : Scan (List Char)
  | '0' :: rest => some (['0'], rest)
  | s => digitRun Char.isDigit s

def numberOf (base : Nat) (digits : List Char) : Nat :=
  digits.foldl (fun acc c => acc * base + (hexDigit? c).getD 0) 0

def integerBound : Nat := Nat.pow 2 63

def word (n : Int) : Option Node :=
  if -integerBound <= n && n < integerBound then some (.integer n) else none

def based (base : Nat) (isDigit : Char -> Bool) : Scan Node := fun s => do
  let (digits, rest) <- digitRun isDigit s
  let n <- word (numberOf base digits)
  return (n, rest)

def integer : Scan Node
  | '0' :: 'x' :: rest => based 16 (fun c => (hexDigit? c).isSome) rest
  | '0' :: 'o' :: rest => based 8 (fun c => '0' <= c && c <= '7') rest
  | '0' :: 'b' :: rest => based 2 (fun c => c == '0' || c == '1') rest
  | s => do
      let (negative, s) := sign s
      let (digits, rest) <- decimalDigits s
      let size : Int := numberOf 10 digits
      let n <- word (if negative then -size else size)
      return (n, rest)

def exponent : Scan Int
  | c :: rest =>
      if c == 'e' || c == 'E' then
        let (negative, s) := sign rest
        (digitRun Char.isDigit s).map fun (digits, rest) =>
          let size : Int := numberOf 10 digits
          (if negative then -size else size, rest)
      else none
  | [] => none

/--
Whether `digits * 10 ^ e` is nearer to `2 ^ 1024` than to the greatest number
below it that has 53 binary digits, or halfway: it then has no floating point
value.
-/
def exceedsFloat (digits : Nat) (e : Int) : Bool :=
  let magnitude := (Nat.toDigits 10 digits).length + e
  let bound := Nat.pow 2 1024 - Nat.pow 2 970
  if digits = 0 || magnitude < 308 then false
  else if 310 < magnitude then true
  else bound * Nat.pow 10 (-e).toNat <= digits * Nat.pow 10 e.toNat

def float : Scan Node := fun s =>
  let (negative, s) := sign s
  let bounded (digits : List Char) (e : Int) (rest : List Char) :=
    if !negative && exceedsFloat (numberOf 10 digits) e then none else some (Node.float, rest)
  match s with
  | 'i' :: 'n' :: 'f' :: rest | 'n' :: 'a' :: 'n' :: rest => some (.float, rest)
  | s =>
      match decimalDigits s with
      | none => none
      | some (whole, '.' :: rest) => do
          let (fraction, rest) <- digitRun Char.isDigit rest
          let places : Int := fraction.length
          match exponent rest with
          | some (e, rest) => bounded (whole ++ fraction) (e - places) rest
          | none => bounded (whole ++ fraction) (-places) rest
      | some (whole, rest) => do
          let (e, rest) <- exponent rest
          bounded whole e rest

/-! ## Dates and times -/

def fixedDigits (count : Nat) : Scan Nat := fun s =>
  let digits := s.take count
  if digits.length = count && digits.all Char.isDigit then
    some (numberOf 10 digits, s.drop count)
  else none

def mark (c : Char) : Scan Unit
  | x :: rest => if x == c then some ((), rest) else none
  | [] => none

def daysOfMonth (year month : Nat) : Nat :=
  if month = 2 then
    if (year % 4 = 0 && year % 100 != 0) || year % 400 = 0 then 29 else 28
  else if month = 4 || month = 6 || month = 9 || month = 11 then 30
  else 31

def calendarDay : Scan Unit := fun s => do
  let (year, s) <- fixedDigits 4 s
  let (_, s) <- mark '-' s
  let (month, s) <- fixedDigits 2 s
  let (_, s) <- mark '-' s
  let (day, s) <- fixedDigits 2 s
  if 1 <= month && month <= 12 && 1 <= day && day <= daysOfMonth year month then
    return ((), s)
  else none

def timeOfDay : Scan Unit := fun s => do
  let (hour, s) <- fixedDigits 2 s
  let (_, s) <- mark ':' s
  let (minute, s) <- fixedDigits 2 s
  let (_, s) <- mark ':' s
  let (second, s) <- fixedDigits 2 s
  if 23 < hour || 59 < minute || 60 < second then none
  else
    match s with
    | '.' :: rest => do
        let fraction := rest.takeWhile Char.isDigit
        if fraction.isEmpty then none else return ((), rest.dropWhile Char.isDigit)
    | _ => return ((), s)

def offset : Scan Unit
  | 'Z' :: rest | 'z' :: rest => some ((), rest)
  | '+' :: s | '-' :: s => do
      let (hour, s) <- fixedDigits 2 s
      let (_, s) <- mark ':' s
      let (minute, s) <- fixedDigits 2 s
      if 23 < hour || 59 < minute then none else return ((), s)
  | _ => none

def timeAfterDate : Scan Unit
  | c :: s =>
      if c == 'T' || c == 't' || c == ' ' then
        match timeOfDay s with
        | none => none
        | some (_, s) => some ((), match offset s with | some (_, s) => s | none => s)
      else none
  | [] => none

def date : Scan Node := fun s =>
  match calendarDay s with
  | some (_, s) =>
      match timeAfterDate s with
      | some (_, s) => some (.date, s)
      | none => some (.date, s)
  | none => (timeOfDay s).map fun (_, s) => (.date, s)

def plain : Scan Node := fun s =>
  match s with
  | 't' :: 'r' :: 'u' :: 'e' :: rest => some (.boolean true, rest)
  | 'f' :: 'a' :: 'l' :: 's' :: 'e' :: rest => some (.boolean false, rest)
  | s => date s <|> float s <|> integer s

end Toml
end ChainWire
