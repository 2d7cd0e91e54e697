import RelayGate.Relay.Endpoint

namespace RelayGate

structure RelayCard where
  id : String
  address : String
  port : UInt16
  transports : List String
  region : String
  load : Binary64
  isDecoy : Bool
  publicKey : Bytes
deriving DecidableEq

def Endpoint.card (e : Endpoint) : RelayCard where
  id := e.id
  address := e.address
  port := e.port
  transports := e.transports
  region := e.region
  load := e.load
  isDecoy := e.isDecoy
  publicKey := e.publicKey

namespace RelayCard

def shape : Json.Shape :=
  ⟨["id", "address", "port", "transports", "region", "load", "is_decoy", "public_key"], 8⟩

def toJson (e : RelayCard) : Json :=
  .record [("id", .ofText e.id), ("address", .ofText e.address), ("port", .ofNat e.port.toNat),
    ("transports", .ofTexts e.transports), ("region", .ofText e.region),
    ("load", .ofBinary64 e.load), ("is_decoy", .bool e.isDecoy),
    ("public_key", .ofBase64 e.publicKey)]

open Json in
def ofJson? (v : Json) : Option RelayCard :=
  match shape.columns v with
  | some [id, address, port, transports, region, load, decoy, key] => do
    return {
      id := ← required text? id
      address := ← required text? address
      port := ← required uint16? port
      transports := ← required (list? text?) transports
      region := ← required text? region
      load := ← required binary64? load
      isDecoy := ← required bool? decoy
      publicKey := ← required base64? key }
  | _ => none

end RelayCard

structure Transport where
  kind : String
  /-- Domains that the traffic seems to go to. -/
  covers : List String
  /-- The handshake to imitate; empty where there is none. -/
  fingerprint : String
  options : KeyMap String
deriving DecidableEq

namespace Transport

def shape : Json.Shape := ⟨["type", "endpoints", "fingerprint", "options"], 4⟩

def toJson (t : Transport) : Json :=
  .record [("type", .ofText t.kind), ("endpoints", .ofTexts t.covers),
    ("fingerprint", .ofText t.fingerprint), ("options", .ofTextMap t.options)]

open Json in
def ofJson? (v : Json) : Option Transport :=
  match shape.columns v with
  | some [kind, covers, fingerprint, options] => do
    return {
      kind := ← required text? kind
      covers := ← required (list? text?) covers
      fingerprint := ← required text? fingerprint
      options := ← required textMap? options }
  | _ => none

end Transport

structure Discovery where
  channels : List String
  /-- Seconds between two scans. -/
  scanInterval : UInt32
  batteryAware : Bool
deriving DecidableEq

namespace Discovery

def shape : Json.Shape := ⟨["channels", "scan_interval", "battery_aware"], 3⟩

def toJson (d : Discovery) : Json :=
  .record [("channels", .ofTexts d.channels), ("scan_interval", .ofNat d.scanInterval.toNat),
    ("battery_aware", .bool d.batteryAware)]

open Json in
def ofJson? (v : Json) : Option Discovery :=
  match shape.columns v with
  | some [channels, interval, battery] => do
    return {
      channels := ← required (list? text?) channels
      scanInterval := ← required uint32? interval
      batteryAware := ← required bool? battery }
  | _ => none

end Discovery

structure Pack where
  version : String
  timestamp : UInt64
  endpoints : List RelayCard
  transports : List Transport
  discovery : Discovery
  metadata : KeyMap String
  signature : Bytes
  publicKey : Bytes
deriving DecidableEq

namespace Pack

def formatVersion : String := "1.0"

def shape : Json.Shape :=
  ⟨["version", "timestamp", "endpoints", "transports", "discovery", "metadata", "signature",
    "public_key"], 8⟩

def contentFields (p : Pack) : List (String × Json) :=
  [("version", .ofText p.version), ("timestamp", .ofNat p.timestamp.toNat),
    ("endpoints", .array (p.endpoints.map RelayCard.toJson)),
    ("transports", .array (p.transports.map Transport.toJson)),
    ("discovery", p.discovery.toJson), ("metadata", .ofTextMap p.metadata)]

def toJson (p : Pack) : Json :=
  .record (p.contentFields ++
    [("signature", .ofBase64 p.signature), ("public_key", .ofBase64 p.publicKey)])

open Json in
def ofJson? (v : Json) : Option Pack :=
  match shape.columns v with
  | some [version, timestamp, endpoints, transports, discovery, metadata, signature, key] => do
    return {
      version := ← required text? version
      timestamp := ← required uint64? timestamp
      endpoints := ← required (list? RelayCard.ofJson?) endpoints
      transports := ← required (list? Transport.ofJson?) transports
      discovery := ← required Discovery.ofJson? discovery
      metadata := ← required textMap? metadata
      signature := ← required base64? signature
      publicKey := ← required base64? key }
  | _ => none

def toText (p : Pack) : String := p.toJson.toText

def parse (s : String) : Option Pack := (Json.parse s).bind ofJson?

end Pack

end RelayGate
