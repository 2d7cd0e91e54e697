/-!
Powers with natural exponents are the built-in ones here, whatever other instances are in scope, so
that the definitions that run and the lemmas about them mean the same powers.
-/

namespace RelayGate

attribute [scoped instance (20000)] instPowNat
attribute [default_instance 20000] instPowNat

end RelayGate
