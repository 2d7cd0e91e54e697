import RelayGate.Duration
import RelayGate.Trust.Verdict

namespace RelayGate

structure AttestInput where
  platform : String
  token : String
  device : String
  keyId : Option String
deriving DecidableEq

def AttestInput.valid (i : AttestInput) (tier : Tier) (time : UInt64) : Verdict :=
  .valid i.platform i.device tier time

def AttestInput.invalid (i : AttestInput) (tier : Tier) (reason : Reason)
    (time : UInt64) : Verdict :=
  .invalid i.platform i.device tier reason time

def AttestInput.unverified (i : AttestInput) (allowBypass : Bool) (reason : Reason)
    (time : UInt64) : Verdict :=
  if allowBypass then i.valid .bypass time else i.invalid .unknown reason time

inductive AttestFailure where
  | backend (detail : String)
  | timeout (after : Duration)
  | appAttest (detail : String)
deriving DecidableEq

namespace AttestFailure

def message : AttestFailure → String
  | backend detail => "play integrity backend error: " ++ detail
  | timeout after => "attestation backend timed out after " ++ after.text
  | appAttest detail => "app attest verification failed: " ++ detail

/-- The part of an error that may be shown. -/
def code : AttestFailure → String
  | backend _ => "play_integrity_verification_failed"
  | timeout _ => "attestation_backend_timeout"
  | appAttest _ => "dcappattest_verification_failed"

end AttestFailure

structure Reply (α : Type) where
  delay : Duration
  answer : Except AttestFailure α

/-- A reply counts if it takes no longer than the timeout. -/
def Reply.within {α : Type} (r : Reply α) (timeout : Duration) : Except AttestFailure α :=
  if timeout.millis < r.delay.millis then .error (.timeout timeout) else r.answer

inductive Credentials where
  | file (path : String)
  | json (text : String)
deriving DecidableEq

structure AttestEnvelope where
  object : Bytes
  clientDataHash : Option Bytes
  keyId : String
deriving DecidableEq

structure ValidationRequest where
  appId : String
  production : Bool
  envelope : AttestEnvelope
deriving DecidableEq

inductive BackendCall where
  | connect (credentials : Option Credentials)
  | decode (package token : String)
  | validate (request : ValidationRequest)
deriving DecidableEq

structure Attempt where
  outcome : Except AttestFailure Verdict
  calls : List BackendCall

def Attempt.settled (v : Verdict) (calls : List BackendCall) : Attempt := ⟨.ok v, calls⟩

end RelayGate
