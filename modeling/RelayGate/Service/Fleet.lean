import RelayGate.Service.Core

/-!
A small fleet for trying out the service as a whole: four relays on a clock that stands still, a
backend that answers every token alike, and a validator that knows one app.
-/

namespace RelayGate.Fleet

def clock : Clock := .atSeconds 1760000000

def relay (id region : String) (users : UInt32) (isDecoy : Bool) : Endpoint where
  id := id
  publicKey := List.replicate 32 0xAB
  address := "203.0.113." ++ toString (id.utf8ByteSize + 10)
  port := 443
  transports := ["quic", "websocket"]
  channels := ["gps", "fm_rds"]
  region := region
  users := users
  maxUsers := some 100
  status := .active
  isDecoy := isDecoy
  lastSeen := none

def relays : List Endpoint :=
  [relay "relay-busy" "us-east-1" 70 false, relay "relay-idle" "us-east-1" 5 false,
    relay "decoy-1" "us-east-1" 0 true, relay "relay-eu" "eu-west-1" 30 false]

/-- Answers every token but one with the same payload. -/
def backend (payload : Option PlayPayload) : PlayBackend := fun _ token =>
  ⟨⟨0⟩,
    if token = "unreachable" then .error (.backend "playintegrity.googleapis.com: 503")
    else
      match payload with
      | some p => .ok p
      | none => .error (.backend "malformed payload")⟩

def connector (payload : Option PlayPayload) : PlayConnector := fun _ => .ok (backend payload)

def validator : Validator := fun r =>
  ⟨⟨0⟩,
    if r.appId = "TEAM123.net.kestrel.ios" then .ok ()
    else .error (.appAttest ("unexpected app id " ++ r.appId))⟩

def world : World := relays.foldl .upsert (.atClock clock)

def start (vars : List (String × String)) (connector : Option PlayConnector) (fresh : Bytes) :
    Except Service.StartError Deployment :=
  match Settings.ofVars vars with
  | .error e => .error (.settings e)
  | .ok settings => (Service.start settings connector (some validator) fresh).map (⟨·, world⟩)

end RelayGate.Fleet
