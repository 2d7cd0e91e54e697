namespace RelayGate.Text

abbrev CharRanges := List (Nat × Nat)

def CharRanges.has (rs : CharRanges) (c : Char) : Bool :=
  rs.any fun r => r.1 ≤ c.toNat && c.toNat ≤ r.2

end RelayGate.Text
