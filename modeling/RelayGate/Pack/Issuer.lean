import RelayGate.Clock
import RelayGate.Pack.Catalog
import RelayGate.Pack.Signature
import RelayGate.Relay.Selection
import RelayGate.Rollout

namespace RelayGate

structure Pack.Issuer where
  key : SigningKey
  policy : DecoyPolicy
  maxEndpoints : Nat
  gate : Option Rollout.Gate

namespace Pack.Issuer

def new (key : SigningKey) (policy : DecoyPolicy) : Pack.Issuer := ⟨key, policy, defaultLimit, none⟩

def cohort (g : Rollout.Gate) (client region : String) : String :=
  if g.includes client Pack.formatVersion region then "current" else "holdback"

def metadata (b : Pack.Issuer) (client region : String) : KeyMap String :=
  let m := KeyMap.ofList [("client_id", client), ("region", region)]
  match b.gate with
  | some g => m.insert "rollout" (cohort g client region)
  | none => m

def draft (b : Pack.Issuer) (now : Clock) (client region : String) (es : List Endpoint) : Pack where
  version := Pack.formatVersion
  timestamp := now.seconds
  endpoints := es.map Endpoint.card
  transports := Catalog.transports
  discovery := Catalog.discovery
  metadata := b.metadata client region
  signature := []
  publicKey := []

/-- The pack with the region that it is for. A query for endpoints that fails is an error. -/
def issue (b : Pack.Issuer) (l : Lookup) (now : Clock) (client hint : String)
    (preferred : List String) (verdict : Option Verdict) : Except Directory.Error (String × Pack) := do
  let region := l.chooseRegion hint preferred
  let es ← l.choose b.policy region verdict b.maxEndpoints
  return (region, (b.draft now client region es).sign b.key)

end Pack.Issuer

end RelayGate
