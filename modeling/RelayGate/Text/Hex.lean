import RelayGate.Bytes

namespace RelayGate.Text.Hex

def digit (n : Nat) : Char := if n < 10 then Char.ofNat (48 + n) else Char.ofNat (87 + n)

def value? (c : Char) : Option Nat :=
  if c.isDigit then some (c.toNat - 48)
  else if 'a' ≤ c ∧ c ≤ 'f' then some (c.toNat - 87)
  else if 'A' ≤ c ∧ c ≤ 'F' then some (c.toNat - 55)
  else none

def encode (bs : Bytes) : List Char :=
  bs.flatMap fun b => [digit (b.toNat / 16), digit (b.toNat % 16)]

def decode : List Char → Option Bytes
  | [] => some []
  | [_] => none
  | a :: b :: r => do
    let h ← value? a
    let l ← value? b
    let bs ← decode r
    return UInt8.ofNat (16 * h + l) :: bs

end RelayGate.Text.Hex
