import RelayGate.Trust.Verdict

namespace RelayGate

structure AuditRecord where
  device : String
  platform : String
  token : String
  isValid : Bool
  tier : Tier
  time : UInt64
deriving DecidableEq

namespace AuditRecord

def ofVerdict (v : Verdict) (token : String) : AuditRecord :=
  ⟨v.device, v.platform, token, v.isValid, v.tier, v.time⟩

def shape : Json.Shape := ⟨["device_id", "platform", "token", "is_valid", "tier", "at"], 6⟩

def toJson (r : AuditRecord) : Json :=
  .record [("device_id", .ofText r.device), ("platform", .ofText r.platform),
    ("token", .ofText r.token), ("is_valid", .bool r.isValid), ("tier", Named.toJson r.tier),
    ("at", .ofNat r.time.toNat)]

open Json in
def ofJson? (v : Json) : Option AuditRecord :=
  match shape.columns v with
  | some [device, platform, token, isValid, tier, time] => do
    return {
      device := ← required text? device
      platform := ← required text? platform
      token := ← required text? token
      isValid := ← required bool? isValid
      tier := ← required Named.ofJson? tier
      time := ← required uint64? time }
  | _ => none

end AuditRecord

end RelayGate
