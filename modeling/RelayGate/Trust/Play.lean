import RelayGate.Clock
import RelayGate.Trust.Attestation
import RelayGate.Trust.Payload

/-!
Attestation of Android clients: a backend decodes the token, and a policy judges the payload. The
backend is connected to once, by the first attempt that needs it, and what came of that is kept.
-/

namespace RelayGate

structure PlayPolicy where
  /-- The package that requests must come from; without one Android is not configured. -/
  package : Option String
  allowBasic : Bool
  requireLicensed : Bool
  /-- How far a request may lie in the past or in the future. -/
  maxAge : Duration
  allowBypass : Bool
  timeout : Duration
deriving DecidableEq

namespace PlayPolicy

def standard : PlayPolicy where
  package := none
  allowBasic := false
  requireLicensed := true
  maxAge := .ofSeconds 300
  allowBypass := false
  timeout := .ofSeconds 10

def age (now time : UInt64) : UInt64 := if now < time then time - now else now - time

/-- The greatest age in 64 bits; a longer span stops at their end. -/
def ageLimit (p : PlayPolicy) : UInt64 := UInt64.ofNat (min p.maxAge.millis (2 ^ 64 - 1))

def isFresh (p : PlayPolicy) (now : Clock) : Option UInt64 → Bool
  | some time => age now.millis time ≤ p.ageLimit
  | none => false

def acceptsTier (p : PlayPolicy) : Tier → Bool
  | .strong => true
  | .basic => p.allowBasic
  | .device => p.allowBasic
  | _ => false

def objection (p : PlayPolicy) (payload : PlayPayload) (package : String) (now : Clock) :
    Option Reason :=
  match payload.request with
  | none => some .missingTokenPayload
  | some request =>
    if request.package ≠ some package then some .packageNameMismatch
    else if !p.isFresh now request.time then some .attestationExpired
    else if payload.recognition ≠ some "PLAY_RECOGNIZED" then some .appNotRecognized
    else if p.requireLicensed ∧ payload.licensing ≠ some "LICENSED" then some .appNotLicensed
    else if !p.acceptsTier payload.tier then some .deviceIntegrityFailed
    else none

/-- The verdict carries the tier of the payload whether it is valid or not. -/
def judge (p : PlayPolicy) (payload : PlayPayload) (package : String) (i : AttestInput)
    (now : Clock) : Verdict :=
  match p.objection payload package now with
  | some reason => i.invalid payload.tier reason now.seconds
  | none => i.valid payload.tier now.seconds

end PlayPolicy

abbrev PlayBackend := String → String → Reply PlayPayload

abbrev PlayConnector := Option Credentials → Except AttestFailure PlayBackend

inductive PlayConnection where
  | untried
  | failed
  | connected (backend : PlayBackend)

structure PlayVerifier where
  policy : PlayPolicy
  connector : Option PlayConnector
  credentials : Option Credentials
  connection : PlayConnection

namespace PlayVerifier

def new (policy : PlayPolicy) (connector : Option PlayConnector)
    (credentials : Option Credentials) : PlayVerifier :=
  ⟨policy, connector, credentials, .untried⟩

def establish (v : PlayVerifier) (connector : PlayConnector) : PlayConnection × List BackendCall :=
  match v.connection with
  | .untried =>
    match connector v.credentials with
    | .ok backend => (.connected backend, [.connect v.credentials])
    | .error _ => (.failed, [.connect v.credentials])
  | known => (known, [])

def unconfigured (v : PlayVerifier) (i : AttestInput) (now : Clock) : Verdict :=
  i.unverified v.policy.allowBypass .missingAttestationConfig now.seconds

def consult (v : PlayVerifier) (backend : PlayBackend) (package : String) (i : AttestInput)
    (now : Clock) : Except AttestFailure Verdict := do
  let payload ← (backend package i.token).within v.policy.timeout
  return v.policy.judge payload package i now

/-- A connection that failed leaves Android unconfigured; a backend that fails is an error. -/
def attest (v : PlayVerifier) (i : AttestInput) (now : Clock) : Attempt × PlayVerifier :=
  match v.policy.package, v.connector with
  | some package, some connector =>
    let (connection, calls) := v.establish connector
    match connection with
    | .connected backend =>
      (⟨v.consult backend package i now, calls ++ [.decode package i.token]⟩,
        { v with connection := connection })
    | _ => (.settled (v.unconfigured i now) calls, { v with connection := connection })
  | _, _ => (.settled (v.unconfigured i now) [], v)

end PlayVerifier

end RelayGate
