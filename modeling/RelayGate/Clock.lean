import RelayGate.Power

namespace RelayGate

structure Clock where
  millis : UInt64
deriving DecidableEq

namespace Clock

def atSeconds (s : UInt64) : Clock := ⟨UInt64.ofNat (min (s.toNat * 1000) (2 ^ 64 - 1))⟩

def seconds (c : Clock) : UInt64 := c.millis / 1000

/-- Time that passes beyond the end starts over. -/
def advance (c : Clock) (millis : UInt64) : Clock := ⟨c.millis + millis⟩

end Clock

end RelayGate
