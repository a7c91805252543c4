/-!
# Durations in text

A number of milliseconds is shown in the largest unit that is not below one:
seconds with up to three decimals, or whole milliseconds.
-/

namespace ChainWire
namespace Duration

def dropTrailingZeros (digits : List Char) : List Char :=
  (digits.reverse.dropWhile (fun c => c == '0')).reverse

def decimals (thousandths : Nat) : String :=
  let digits := (toString (1000 + thousandths)).toList.drop 1
  match dropTrailingZeros digits with
  | [] => ""
  | shown => "." ++ String.ofList shown

/-- A number of milliseconds as text; nothing at all is shown in nanoseconds. -/
def ofMillis (ms : Nat) : String :=
  if ms = 0 then "0ns"
  else if ms < 1000 then s!"{ms}ms"
  else toString (ms / 1000) ++ decimals (ms % 1000) ++ "s"

end Duration
end ChainWire
