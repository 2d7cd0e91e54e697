import RelayGate.Pack.Key
import RelayGate.Relay.Selection
import RelayGate.Rollout
import RelayGate.Trust.AppAttest
import RelayGate.Trust.Play

/-!
Settings of the service, read once from named texts. A blank text counts as absent.
-/

namespace RelayGate

structure Settings where
  production : Bool
  keys : ConfiguredKeys
  allowBypass : Bool
  play : PlayPolicy
  credentials : Option Credentials
  appAttest : AppAttestPolicy
  /-- Absent if no variable sets a percentage. -/
  gate : Option Rollout.Gate
  decoyPolicy : DecoyPolicy
  maxEndpoints : Nat
  backendTimeout : Duration
deriving DecidableEq

inductive Settings.Error where
  | invalid (name value : String)
  | rollout (e : Rollout.Error)
  | bypassInProduction
  | ephemeralKeyInProduction
  | missingSigningKeyInProduction
deriving DecidableEq

def Settings.Error.message : Settings.Error → String
  | invalid name value => name ++ ": invalid value " ++ Text.quote value
  | rollout e => e.message
  | bypassInProduction => "attestation bypass must not be enabled in production"
  | ephemeralKeyInProduction => "ephemeral signing keys must not be used in production"
  | missingSigningKeyInProduction => "a config signing private key is required in production"

abbrev Vars := KeyMap String

namespace Vars

/-- The text without the blanks around it, unless it is blank. -/
def text (vars : Vars) (name : String) : Option String :=
  ((vars.get? name).map Text.trim).filter fun s => !s.isEmpty

/-- On for three words in any case of ASCII letters, and off for every other text. -/
def flag (vars : Vars) (name : String) (absent : Bool) : Bool :=
  match vars.text name with
  | some s => ["1", "true", "yes"].contains (s.map Char.toLower)
  | none => absent

def parsed {α : Type} (read : String → Option α) (vars : Vars) (name : String) :
    Except Settings.Error (Option α) :=
  match vars.text name with
  | none => .ok none
  | some s =>
    match read s with
    | some a => .ok (some a)
    | none => .error (.invalid name s)

def seconds (vars : Vars) (name : String) (absent : Duration) : Except Settings.Error Duration := do
  match ← vars.parsed Text.readNat64 name with
  | none => return absent
  | some 0 => .error (.invalid name "0")
  | some s => return .ofSeconds s

def isProduction (vars : Vars) : Bool :=
  (vars.text "KESTREL_ENV").any fun s => s.map Char.toLower == "production"

/-- A text wins over a file. -/
def credentials (vars : Vars) : Option Credentials :=
  match vars.text "PLAY_INTEGRITY_CREDENTIALS_JSON" with
  | some s => some (.json s)
  | none => (vars.text "PLAY_INTEGRITY_CREDENTIALS_FILE").map .file

def keys (vars : Vars) : ConfiguredKeys where
  privateKey := vars.text "KESTREL_CONFIG_SIGNING_PRIVATE_KEY"
  publicKey := vars.text "KESTREL_CONFIG_SIGNING_PUBLIC_KEY"
  allowEphemeral := vars.flag "KESTREL_ALLOW_EPHEMERAL_SIGNING_KEY" false

def play (vars : Vars) (allowBypass : Bool) (timeout : Duration) : Except Settings.Error PlayPolicy := do
  let maxAge ← vars.seconds "PLAY_INTEGRITY_MAX_AGE_SECONDS" PlayPolicy.standard.maxAge
  return {
    package := vars.text "PLAY_INTEGRITY_PACKAGE_NAME"
    allowBasic := vars.flag "PLAY_INTEGRITY_ALLOW_BASIC" false
    requireLicensed := vars.flag "PLAY_INTEGRITY_REQUIRE_LICENSED" true
    maxAge := maxAge
    allowBypass := allowBypass
    timeout := timeout }

def appAttest (vars : Vars) (allowBypass : Bool) (timeout : Duration) : AppAttestPolicy where
  team := vars.text "APPLE_TEAM_ID"
  bundle := vars.text "APPLE_BUNDLE_ID"
  production := vars.flag "APPLE_PRODUCTION" true
  allowBypass := allowBypass
  timeout := timeout

def gate (vars : Vars) : Except Settings.Error (Option Rollout.Gate) :=
  match Rollout.Gate.ofVars vars.entries with
  | .ok g => .ok (if g.isEmpty then none else some g)
  | .error e => .error (.rollout e)

end Vars

namespace Settings

def standard : Settings where
  production := false
  keys := ⟨none, none, false⟩
  allowBypass := false
  play := .standard
  credentials := none
  appAttest := .standard
  gate := none
  decoyPolicy := .replace
  maxEndpoints := defaultLimit
  backendTimeout := .ofSeconds 10

def ofVars (pairs : List (String × String)) : Except Settings.Error Settings := do
  let vars : Vars := .ofList pairs
  let allowBypass := vars.flag "KESTREL_ALLOW_ATTESTATION_BYPASS" false
  let timeout ← vars.seconds "KESTREL_BACKEND_TIMEOUT_SECONDS" standard.backendTimeout
  let play ← vars.play allowBypass timeout
  let gate ← vars.gate
  let policy ← vars.parsed (fun s => (DecoyPolicy.ofText? s).toOption) "KESTREL_DECOY_POLICY"
  let maxEndpoints ← vars.parsed Text.readNat64 "KESTREL_MAX_ENDPOINTS"
  return {
    production := vars.isProduction
    keys := vars.keys
    allowBypass := allowBypass
    play := play
    credentials := vars.credentials
    appAttest := vars.appAttest allowBypass timeout
    gate := gate
    decoyPolicy := policy.getD .replace
    maxEndpoints := maxEndpoints.getD standard.maxEndpoints
    backendTimeout := timeout }

def validate (s : Settings) : Except Settings.Error Unit :=
  if !s.production then .ok ()
  else if s.allowBypass then .error .bypassInProduction
  else if s.keys.allowEphemeral then .error .ephemeralKeyInProduction
  else if s.keys.privateKey.isNone then .error .missingSigningKeyInProduction
  else .ok ()

end Settings

end RelayGate
