import RelayGate.Named

namespace RelayGate

inductive RelayStatus where
  | active
  | degraded
  | offline
  | maintenance
deriving DecidableEq

instance : Named RelayStatus where
  all := [.active, .degraded, .offline, .maintenance]
  name
    | .active => "active"
    | .degraded => "degraded"
    | .offline => "offline"
    | .maintenance => "maintenance"
  refusal := "invalid endpoint status"

inductive Channel where
  | gps
  | fmRds
  | dtv
  | plc
  | gsmCb
  | lteSib
  | iotMqtt
  | blockchain
  | satellite
  | intranet
  | social
deriving DecidableEq

instance : Named Channel where
  all := [.gps, .fmRds, .dtv, .plc, .gsmCb, .lteSib, .iotMqtt, .blockchain, .satellite, .intranet,
    .social]
  name
    | .gps => "gps"
    | .fmRds => "fm_rds"
    | .dtv => "dtv"
    | .plc => "plc"
    | .gsmCb => "gsm_cb"
    | .lteSib => "lte_sib"
    | .iotMqtt => "iot_mqtt"
    | .blockchain => "blockchain"
    | .satellite => "satellite"
    | .intranet => "intranet"
    | .social => "social"
  refusal := "invalid discovery channel"

structure Endpoint where
  id : String
  publicKey : Bytes
  address : String
  port : UInt16
  transports : List String
  channels : List String
  region : String
  users : UInt32
  maxUsers : Option UInt32
  status : RelayStatus
  isDecoy : Bool
  lastSeen : Option UInt64
deriving DecidableEq

namespace Endpoint

/-- The share of the capacity in use, at most one. Endpoints of unknown or no capacity count as half
full, so that they are neither preferred nor starved. -/
def load (e : Endpoint) : Binary64 :=
  match e.maxUsers with
  | some max =>
    if max = 0 then .ofRatio 1 2
    else if max ≤ e.users then .one
    else .ofRatio e.users.toNat max.toNat
  | none => .ofRatio 1 2

def isActive (e : Endpoint) : Bool := e.status == .active

def callsign (e : Endpoint) : String :=
  "OP-" ++ if e.id.isEmpty then "unknown" else String.ofList (e.id.toList.take 8)

def shape : Json.Shape :=
  ⟨["id", "public_key", "address", "port", "transports", "discovery_channels", "region",
    "current_users", "max_users", "status", "is_decoy", "last_seen"], 12⟩

def toJson (e : Endpoint) : Json :=
  .record [("id", .ofText e.id), ("public_key", .ofBytes e.publicKey), ("address", .ofText e.address),
    ("port", .ofNat e.port.toNat), ("transports", .ofTexts e.transports),
    ("discovery_channels", .ofTexts e.channels), ("region", .ofText e.region),
    ("current_users", .ofNat e.users.toNat),
    ("max_users", .ofOption (fun n => .ofNat n.toNat) e.maxUsers),
    ("status", Named.toJson e.status), ("is_decoy", .bool e.isDecoy),
    ("last_seen", .ofOption (fun n => .ofNat n.toNat) e.lastSeen)]

open Json in
def ofJson? (v : Json) : Option Endpoint :=
  match shape.columns v with
  | some [id, key, address, port, transports, channels, region, users, max, status, decoy, seen] => do
    return {
      id := ← required text? id
      publicKey := ← required (list? byte?) key
      address := ← required text? address
      port := ← required uint16? port
      transports := ← required (list? text?) transports
      channels := ← required (list? text?) channels
      region := ← required text? region
      users := ← required uint32? users
      maxUsers := ← optional uint32? max
      status := ← required Named.ofJson? status
      isDecoy := ← required bool? decoy
      lastSeen := ← optional uint64? seen }
  | _ => none

end Endpoint

/-- What the public listing tells about an endpoint: no address and no key. -/
structure ListingEntry where
  id : String
  callsign : String
  region : String
  status : RelayStatus
  users : UInt32
  maxUsers : Option UInt32
  lastSeen : Option UInt64
deriving DecidableEq

def Endpoint.listingEntry (e : Endpoint) : ListingEntry where
  id := e.id
  callsign := e.callsign
  region := e.region
  status := e.status
  users := e.users
  maxUsers := e.maxUsers
  lastSeen := e.lastSeen

namespace ListingEntry

def shape : Json.Shape :=
  ⟨["id", "callsign", "region", "status", "current_users", "max_users", "last_seen"], 7⟩

def toJson (s : ListingEntry) : Json :=
  .record [("id", .ofText s.id), ("callsign", .ofText s.callsign), ("region", .ofText s.region),
    ("status", Named.toJson s.status), ("current_users", .ofNat s.users.toNat),
    ("max_users", .ofOption (fun n => .ofNat n.toNat) s.maxUsers),
    ("last_seen", .ofOption (fun n => .ofNat n.toNat) s.lastSeen)]

open Json in
def ofJson? (v : Json) : Option ListingEntry :=
  match shape.columns v with
  | some [id, callsign, region, status, users, max, seen] => do
    return {
      id := ← required text? id
      callsign := ← required text? callsign
      region := ← required text? region
      status := ← required Named.ofJson? status
      users := ← required uint32? users
      maxUsers := ← optional uint32? max
      lastSeen := ← optional uint64? seen }
  | _ => none

end ListingEntry

end RelayGate
