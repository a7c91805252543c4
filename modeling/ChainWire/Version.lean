/-!
# Protocol versions

The versions that two peers can agree on, in ascending order.
-/

namespace ChainWire

inductive Version where
  | eth65
  | eth66
  | eth67
  | eth68
deriving DecidableEq, Repr, Inhabited

namespace Version

def all : List Version := [eth65, eth66, eth67, eth68]

def latest : Version := eth68

def number : Version -> Nat
  | eth65 => 65
  | eth66 => 66
  | eth67 => 67
  | eth68 => 68

def ofNumber? : Nat -> Option Version
  | 65 => some eth65
  | 66 => some eth66
  | 67 => some eth67
  | 68 => some eth68
  | _ => none

/-- The name shown to people, such as `eth/66`. -/
def name (v : Version) : String :=
  s!"eth/{v.number}"

def usesRequestIds (v : Version) : Bool :=
  v != eth65

theorem ofNumber?_number (v : Version) : ofNumber? v.number = some v := by
  cases v <;> rfl

theorem mem_all (v : Version) : v ∈ all := by
  cases v <;> decide

end Version
end ChainWire
