import RelayGate.Clock
import RelayGate.Trust.Envelope

namespace RelayGate

structure AppAttestPolicy where
  team : Option String
  bundle : Option String
  /-- The environment that the validator is asked about: on unless it is turned off. -/
  production : Bool
  allowBypass : Bool
  timeout : Duration
deriving DecidableEq

namespace AppAttestPolicy

def standard : AppAttestPolicy where
  team := none
  bundle := none
  production := true
  allowBypass := false
  timeout := .ofSeconds 10

def appId (p : AppAttestPolicy) : Option String :=
  match p.team, p.bundle with
  | some team, some bundle =>
    if team.isEmpty || bundle.isEmpty then none else some (team ++ "." ++ bundle)
  | _, _ => none

end AppAttestPolicy

abbrev Validator := ValidationRequest → Reply Unit

structure AppAttestVerifier where
  policy : AppAttestPolicy
  validator : Option Validator

namespace AppAttestVerifier

def consult (v : AppAttestVerifier) (validator : Validator) (request : ValidationRequest)
    (i : AttestInput) (now : Clock) : Except AttestFailure Verdict := do
  (validator request).within v.policy.timeout
  return i.valid .strong now.seconds

def suppliedKeyId (i : AttestInput) : Option String :=
  i.keyId.filter fun k => !k.isEmpty && !i.token.isEmpty

def attest (v : AppAttestVerifier) (i : AttestInput) (now : Clock) : Attempt :=
  match suppliedKeyId i with
  | none => .settled (i.invalid .unknown .missingTokenOrKeyId now.seconds) []
  | some keyId =>
    match v.policy.appId, v.validator with
    | some appId, some validator =>
      match AttestEnvelope.parse i.token keyId with
      | .error _ => .settled (i.invalid .unknown .invalidAttestationFormat now.seconds) []
      | .ok envelope =>
        let request : ValidationRequest := ⟨appId, v.policy.production, envelope⟩
        ⟨v.consult validator request i now, [.validate request]⟩
    | _, _ =>
      .settled (i.unverified v.policy.allowBypass .missingAppAttestConfig now.seconds) []

end AppAttestVerifier

end RelayGate
