import RelayGate.Power

namespace RelayGate.Text

def digitValue (c : Char) : Nat := c.toNat - '0'.toNat

def digitsValue (acc : Nat) (ds : List Char) : Nat := ds.foldl (fun n c => n * 10 + digitValue c) acc

def readDigits (s : List Char) : Option Nat :=
  if !s.isEmpty && s.all Char.isDigit then some (digitsValue 0 s) else none

/-- A plus sign is allowed, a minus sign is not, not even before zero. -/
def readNat : List Char → Option Nat
  | '+' :: ds => readDigits ds
  | ds => readDigits ds

def readInt : List Char → Option Int
  | '-' :: ds => (readDigits ds).map fun n => -(n : Int)
  | ds => (readNat ds).map fun n => (n : Int)

def readNat64 (s : String) : Option Nat := (readNat s.toList).filter (· < 2 ^ 64)

def readInt64 (s : String) : Option Int :=
  (readInt s.toList).filter fun n => -2 ^ 63 ≤ n && n < 2 ^ 63

end RelayGate.Text
