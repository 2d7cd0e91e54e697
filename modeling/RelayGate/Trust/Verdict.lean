import RelayGate.Named

namespace RelayGate

inductive Platform where
  | android
  | ios
deriving DecidableEq

instance : Named Platform where
  all := [.android, .ios]
  name
    | .android => "android"
    | .ios => "ios"
  refusal := "unsupported platform"

inductive Tier where
  | unknown
  | bypass
  | basic
  | device
  | strong
deriving DecidableEq

namespace Tier

/-- Later tiers are stronger evidence. -/
def rank : Tier → Nat
  | unknown => 0
  | bypass => 1
  | basic => 2
  | device => 3
  | strong => 4

instance : Ord Tier := ⟨fun a b => compare a.rank b.rank⟩
instance : LE Tier := ⟨fun a b => a.rank ≤ b.rank⟩
instance : LT Tier := ⟨fun a b => a.rank < b.rank⟩
instance (a b : Tier) : Decidable (a ≤ b) := inferInstanceAs (Decidable (a.rank ≤ b.rank))
instance (a b : Tier) : Decidable (a < b) := inferInstanceAs (Decidable (a.rank < b.rank))

def max (a b : Tier) : Tier := if a ≤ b then b else a

end Tier

instance : Named Tier where
  all := [.unknown, .bypass, .basic, .device, .strong]
  name
    | .unknown => "unknown"
    | .bypass => "bypass"
    | .basic => "basic"
    | .device => "device"
    | .strong => "strong"
  refusal := "unknown integrity tier"

inductive Reason where
  | unsupportedPlatform
  | missingAttestationConfig
  | missingTokenPayload
  | packageNameMismatch
  | attestationExpired
  | appNotRecognized
  | appNotLicensed
  | deviceIntegrityFailed
  | missingTokenOrKeyId
  | missingAppAttestConfig
  | invalidAttestationFormat
deriving DecidableEq

instance : Named Reason where
  all := [.unsupportedPlatform, .missingAttestationConfig, .missingTokenPayload,
    .packageNameMismatch, .attestationExpired, .appNotRecognized, .appNotLicensed,
    .deviceIntegrityFailed, .missingTokenOrKeyId, .missingAppAttestConfig,
    .invalidAttestationFormat]
  name
    | .unsupportedPlatform => "unsupported_platform"
    | .missingAttestationConfig => "missing_attestation_config"
    | .missingTokenPayload => "missing_token_payload"
    | .packageNameMismatch => "package_name_mismatch"
    | .attestationExpired => "attestation_expired"
    | .appNotRecognized => "app_not_recognized"
    | .appNotLicensed => "app_not_licensed"
    | .deviceIntegrityFailed => "device_integrity_failed"
    | .missingTokenOrKeyId => "missing_token_or_keyid"
    | .missingAppAttestConfig => "missing_dcappattest_config"
    | .invalidAttestationFormat => "invalid_attestation_format"
  refusal := "unknown reason code"

structure Verdict where
  /-- As the client gave it, whether such a platform exists or not. -/
  platform : String
  device : String
  isValid : Bool
  tier : Tier
  reason : Option Reason
  time : UInt64
deriving DecidableEq

namespace Verdict

def valid (platform device : String) (tier : Tier) (time : UInt64) : Verdict :=
  ⟨platform, device, true, tier, none, time⟩

def invalid (platform device : String) (tier : Tier) (reason : Reason)
    (time : UInt64) : Verdict :=
  ⟨platform, device, false, tier, some reason, time⟩

def shape : Json.Shape :=
  ⟨["platform", "device_id", "is_valid", "tier", "reason", "evaluated_at"], 6⟩

def toJson (v : Verdict) : Json :=
  .record [("platform", .ofText v.platform), ("device_id", .ofText v.device),
    ("is_valid", .bool v.isValid), ("tier", Named.toJson v.tier),
    ("reason", .ofOption Named.toJson v.reason), ("evaluated_at", .ofNat v.time.toNat)]

open Json in
def ofJson? (v : Json) : Option Verdict :=
  match shape.columns v with
  | some [platform, device, isValid, tier, reason, time] => do
    return {
      platform := ← required text? platform
      device := ← required text? device
      isValid := ← required bool? isValid
      tier := ← required Named.ofJson? tier
      reason := ← optional Named.ofJson? reason
      time := ← required uint64? time }
  | _ => none

end Verdict

/-- Only a valid verdict of the strongest tier lets a client see real relays. -/
def needsDecoys : Option Verdict → Bool
  | none => true
  | some v => !v.isValid || v.tier < .strong

end RelayGate
