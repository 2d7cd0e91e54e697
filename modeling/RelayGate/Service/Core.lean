import RelayGate.Service.Error
import RelayGate.Service.World

namespace RelayGate

structure Service where
  evaluator : Evaluator
  issuer : Pack.Issuer

namespace Service

/-- The service of some settings; `fresh` is the seed of a key where one has to be made up. -/
def start (s : Settings) (connector : Option PlayConnector) (validator : Option Validator)
    (fresh : Bytes) : Except Service.StartError Service :=
  match s.validate, SigningKey.resolve s.keys fresh with
  | .error e, _ => .error (.settings e)
  | .ok (), .error e => .error (.key e)
  | .ok (), .ok key => .ok {
      evaluator := ⟨[.play (.new s.play connector s.credentials), .appAttest ⟨s.appAttest, validator⟩]⟩
      issuer := ⟨key, s.decoyPolicy, s.maxEndpoints, s.gate⟩ }

def verifyingKey (s : Service) : Ed25519.VerifyingKey := s.issuer.key.verifyingKey

end Service

structure Deployment where
  service : Service
  world : World

namespace Deployment

def isBlankText (s : String) : Bool := (Text.trim s).isEmpty

/-- An empty text counts as absent. -/
def given (s : Option String) : Option String := s.filter fun s => !s.isEmpty

def evaluate (s : Deployment) (i : AttestInput) : Except AttestFailure Verdict × Deployment :=
  match s.world.evaluate s.service.evaluator i with
  | (r, e, w) => (r, ⟨{ s.service with evaluator := e }, w⟩)

def assess (s : Deployment) (r : PackRequest) : Except AttestFailure (Option Verdict) × Deployment :=
  match given r.attestation with
  | none => (.ok none, s)
  | some token =>
    match s.evaluate ⟨r.platform, token, r.device, r.keyId⟩ with
    | (.ok v, s) => (.ok (some v), s)
    | (.error e, s) => (.error e, s)

def regionHint (r : PackRequest) : String :=
  match given r.region, given r.country with
  | some region, _ => region
  | none, some country => Region.ofCountry country
  | none, none => ""

def issueFor (s : Deployment) (r : PackRequest) (verdict : Option Verdict) :
    Except Service.Error Pack × Deployment :=
  match s.world.issue s.service.issuer r.device (regionHint r) r.preferred verdict with
  | (.ok p, w) => (.ok p, { s with world := w })
  | (.error e, w) => (.error (.infrastructure "config_generation_failed" e.message), { s with world := w })

def issuePack (s : Deployment) (r : PackRequest) : Except Service.Error Pack × Deployment :=
  if isBlankText r.device then (.error (.validation "missing_device_id"), s)
  else if (Named.ofName? r.platform : Option Platform).isNone then
    (.error (.validation "unsupported_platform"), s)
  else
    match s.assess r with
    | (.ok verdict, s) => s.issueFor r verdict
    | (.error e, s) => (.error (.verification e), s)

def attestClient (s : Deployment) (r : AttestRequest) :
    Except Service.Error Finding × Deployment :=
  if isBlankText r.device then (.error (.validation "missing_device_id"), s)
  else
    match s.evaluate ⟨r.platform, r.token, r.device, r.keyId⟩ with
    | (.ok v, s) => (.ok (.ofVerdict v), s)
    | (.error e, s) => (.error (.verification e), s)

def scanRecord (channel : Channel) (r : ScanReport) (time : UInt64) :
    ScanRecord where
  channel := channel
  gateway := given r.gateway
  region := (given r.country).map Region.ofCountry
  success := r.success
  latency := r.latency
  error := given r.error
  time := time

def logScan (s : Deployment) (r : ScanReport) : Except Service.Error Unit × Deployment :=
  match (Named.ofName? r.channel : Option Channel) with
  | none => (.error (.validation "invalid_channel_type"), s)
  | some channel =>
    match s.world.logScan (scanRecord channel r s.world.clock.seconds) with
    | (.error detail, w) =>
      (.error (.infrastructure "discovery_log_store_failed" ("discovery log write failed: " ++ detail)),
        { s with world := w })
    | (.ok (), w) => (.ok (), { s with world := w.emit (.discoveryLogged channel r.success) })

def listing (s : Deployment) : Except Service.Error (List ListingEntry) :=
  match s.world.lookup.listed with
  | .ok es => .ok (es.map Endpoint.listingEntry)
  | .error e => .error (.infrastructure "endpoint_listing_failed" e.message)

def challengeLength : Nat := 32

def challenge (entropy : Bytes) : String :=
  String.ofList (Text.Base64.encodeForAddress (entropy.take challengeLength))

def isUptime (x : Binary64) : Bool := Binary64.zero.le x && x.le (.ofRatio 100 1)

def statusUpdate (r : OperatorReport) (status : RelayStatus) : RelayReport where
  endpoint := r.gateway
  status := status
  users := r.users
  bandwidth := r.bandwidth
  packets := r.packets
  uptime := r.uptime

def acceptReport (s : Deployment) (r : OperatorReport) : Except Service.Error Unit × Deployment :=
  if isBlankText r.gateway then (.error (.validation "missing_gateway_id"), s)
  else
    match (Named.ofName? r.status : Option RelayStatus) with
    | none => (.error (.validation "invalid_status"), s)
    | some status =>
      if !isUptime r.uptime then (.error (.validation "invalid_uptime"), s)
      else
        match s.world.applyReport (statusUpdate r status) with
        | (.error e, w) =>
          (.error (.ofDirectory "gateway_status_store_failed" e), { s with world := w })
        | (.ok (), w) => (.ok (), { s with world := w.emit (.statusUpdated r.gateway status) })

def setLoad (s : Deployment) (id : String) (load : Binary64) : Except Service.Error Unit × Deployment :=
  match s.world.setLoad id (storedLoad load) with
  | (.error e, w) => (.error (.ofDirectory "load_store_failed" e), { s with world := w })
  | (.ok (), w) => (.ok (), { s with world := w })

end Deployment

end RelayGate
