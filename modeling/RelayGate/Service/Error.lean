import RelayGate.Settings

/-!
Why a request or the start of the service fails. Only the code of an error is for clients; its
message may hold detail from the services behind.
-/

namespace RelayGate

inductive Service.Error where
  | validation (code : String)
  | verification (e : AttestFailure)
  | infrastructure (code detail : String)
  | notFound (code : String)
deriving DecidableEq

namespace Service.Error

def message : Service.Error → String
  | validation code => "invalid request: " ++ code
  | verification e => "attestation verification failed: " ++ e.message
  | infrastructure code detail => code ++ ": " ++ detail
  | notFound code => "not found: " ++ code

def publicCode : Service.Error → String
  | validation code => code
  | verification _ => "attestation_verification_failed"
  | infrastructure code _ => code
  | notFound code => code

def ofDirectory (code : String) : Directory.Error → Service.Error
  | .notFound _ => .notFound "gateway_not_found"
  | .unavailable detail => .infrastructure code (Directory.Error.unavailable detail).message

end Service.Error

inductive Service.StartError where
  | settings (e : Settings.Error)
  | key (e : SigningKey.Error)
deriving DecidableEq

end RelayGate
