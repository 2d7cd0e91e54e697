import RelayGate.Trust.AppAttest
import RelayGate.Trust.Play

namespace RelayGate

inductive Verifier where
  | play (v : PlayVerifier)
  | appAttest (v : AppAttestVerifier)

namespace Verifier

def platform : Verifier → Platform
  | play _ => .android
  | appAttest _ => .ios

def attest (i : AttestInput) (now : Clock) : Verifier → Attempt × Verifier
  | play v => ((v.attest i now).1, play (v.attest i now).2)
  | appAttest v => (v.attest i now, appAttest v)

end Verifier

structure Evaluator where
  verifiers : List Verifier

namespace Evaluator

/-- The attempt of the first verifier for a platform, which keeps what it learns by it. -/
def attestFirst (p : Platform) (i : AttestInput) (now : Clock) :
    List Verifier → Option (Attempt × List Verifier)
  | [] => none
  | v :: vs =>
    if v.platform = p then some ((v.attest i now).1, (v.attest i now).2 :: vs)
    else (attestFirst p i now vs).map fun r => (r.1, v :: r.2)

def evaluate (e : Evaluator) (i : AttestInput) (now : Clock) : Attempt × Evaluator :=
  match (Named.ofName? i.platform : Option Platform).bind fun p => attestFirst p i now e.verifiers with
  | some (attempt, verifiers) => (attempt, ⟨verifiers⟩)
  | none => (.settled (i.invalid .unknown .unsupportedPlatform now.seconds) [], e)

end Evaluator

end RelayGate
