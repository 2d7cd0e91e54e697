import RelayGate.Relay.Endpoint
import RelayGate.Trust.Verdict

namespace RelayGate

structure PackRequest where
  device : String
  platform : String
  region : Option String
  /-- A country code, for clients that name no region. -/
  country : Option String
  preferred : List String
  attestation : Option String
  keyId : Option String
  clientVersion : Option String
deriving DecidableEq

namespace PackRequest

def shape : Json.Shape :=
  ⟨["device_id", "platform", "region", "country", "preferred_regions", "attestation", "key_id",
    "client_version"], 2⟩

def toJson (r : PackRequest) : Json :=
  .record [("device_id", .ofText r.device), ("platform", .ofText r.platform),
    ("region", .ofOption .ofText r.region), ("country", .ofOption .ofText r.country),
    ("preferred_regions", .ofTexts r.preferred), ("attestation", .ofOption .ofText r.attestation),
    ("key_id", .ofOption .ofText r.keyId), ("client_version", .ofOption .ofText r.clientVersion)]

open Json in
def ofJson? (v : Json) : Option PackRequest :=
  match shape.columns v with
  | some [device, platform, region, country, preferred, attestation, keyId, version] => do
    return {
      device := ← required text? device
      platform := ← required text? platform
      region := ← optional text? region
      country := ← optional text? country
      preferred := ← orElse [] (list? text?) preferred
      attestation := ← optional text? attestation
      keyId := ← optional text? keyId
      clientVersion := ← optional text? version }
  | _ => none

end PackRequest

structure AttestRequest where
  platform : String
  token : String
  device : String
  keyId : Option String
deriving DecidableEq

namespace AttestRequest

def shape : Json.Shape := ⟨["platform", "token", "device_id", "key_id"], 3⟩

def toJson (r : AttestRequest) : Json :=
  .record [("platform", .ofText r.platform), ("token", .ofText r.token),
    ("device_id", .ofText r.device), ("key_id", .ofOption .ofText r.keyId)]

open Json in
def ofJson? (v : Json) : Option AttestRequest :=
  match shape.columns v with
  | some [platform, token, device, keyId] => do
    return {
      platform := ← required text? platform
      token := ← required text? token
      device := ← required text? device
      keyId := ← optional text? keyId }
  | _ => none

end AttestRequest

structure Finding where
  verified : Bool
  tier : Tier
  reason : Option Reason
deriving DecidableEq

namespace Finding

def ofVerdict (v : Verdict) : Finding := ⟨v.isValid, v.tier, v.reason⟩

def shape : Json.Shape := ⟨["verified", "integrity", "reason"], 3⟩

def toJson (o : Finding) : Json :=
  .record [("verified", .bool o.verified), ("integrity", Named.toJson o.tier),
    ("reason", .ofOption Named.toJson o.reason)]

open Json in
def ofJson? (v : Json) : Option Finding :=
  match shape.columns v with
  | some [verified, tier, reason] => do
    return {
      verified := ← required bool? verified
      tier := ← required Named.ofJson? tier
      reason := ← optional Named.ofJson? reason }
  | _ => none

end Finding

structure ScanReport where
  channel : String
  gateway : Option String
  success : Bool
  latency : Option UInt32
  error : Option String
  country : Option String
deriving DecidableEq

namespace ScanReport

def shape : Json.Shape :=
  ⟨["channel_type", "gateway_id", "success", "latency_ms", "error", "country"], 3⟩

def toJson (r : ScanReport) : Json :=
  .record [("channel_type", .ofText r.channel), ("gateway_id", .ofOption .ofText r.gateway),
    ("success", .bool r.success), ("latency_ms", .ofOption (fun n => .ofNat n.toNat) r.latency),
    ("error", .ofOption .ofText r.error), ("country", .ofOption .ofText r.country)]

open Json in
def ofJson? (v : Json) : Option ScanReport :=
  match shape.columns v with
  | some [channel, gateway, success, latency, error, country] => do
    return {
      channel := ← required text? channel
      gateway := ← optional text? gateway
      success := ← required bool? success
      latency := ← optional uint32? latency
      error := ← optional text? error
      country := ← optional text? country }
  | _ => none

end ScanReport

structure ScanRecord where
  channel : Channel
  gateway : Option String
  /-- The region of the client's country, if that is known. -/
  region : Option String
  success : Bool
  latency : Option UInt32
  error : Option String
  time : UInt64
deriving DecidableEq

namespace ScanRecord

def shape : Json.Shape :=
  ⟨["channel", "gateway_id", "region", "success", "latency_ms", "error", "at"], 7⟩

def toJson (r : ScanRecord) : Json :=
  .record [("channel", Named.toJson r.channel), ("gateway_id", .ofOption .ofText r.gateway),
    ("region", .ofOption .ofText r.region), ("success", .bool r.success),
    ("latency_ms", .ofOption (fun n => .ofNat n.toNat) r.latency),
    ("error", .ofOption .ofText r.error), ("at", .ofNat r.time.toNat)]

open Json in
def ofJson? (v : Json) : Option ScanRecord :=
  match shape.columns v with
  | some [channel, gateway, region, success, latency, error, time] => do
    return {
      channel := ← required Named.ofJson? channel
      gateway := ← optional text? gateway
      region := ← optional text? region
      success := ← required bool? success
      latency := ← optional uint32? latency
      error := ← optional text? error
      time := ← required uint64? time }
  | _ => none

end ScanRecord

end RelayGate
