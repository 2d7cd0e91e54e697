import RelayGate.Proofs.Relay.Cascade
import RelayGate.Service.Operation

/-!
Runs in which what a service works with may behave differently in every operation: only the services
behind the verifiers, or also the directory, which others change too and which may answer each query in
its own way, the audit trail, and the clock. Main statements: a run of the first kind is one of the
second, and where nothing of this happens, such a run is a run of the deployment.
-/

namespace RelayGate

/-- What the services behind the verifiers do during one operation. -/
structure Moment where
  connector : PlayConnector
  /-- The answers of a backend that was connected to before. -/
  decode : PlayBackend
  validator : Validator

namespace Moment

def connection (m : Moment) : PlayConnection → PlayConnection
  | .connected _ => .connected m.decode
  | .untried => .untried
  | .failed => .failed

def play (m : Moment) (v : PlayVerifier) : PlayVerifier :=
  { v with
    connector := v.connector.map fun _ => m.connector
    connection := m.connection v.connection }

def appAttest (m : Moment) (v : AppAttestVerifier) : AppAttestVerifier :=
  { v with validator := v.validator.map fun _ => m.validator }

def verifier (m : Moment) : Verifier → Verifier
  | .play v => .play (m.play v)
  | .appAttest v => .appAttest (m.appAttest v)

def service (m : Moment) (s : Service) : Service :=
  { s with evaluator := ⟨s.evaluator.verifiers.map m.verifier⟩ }

end Moment

namespace Deployment

def facing (s : Deployment) (m : Moment) : Deployment := { s with service := m.service s.service }

def runFacing (s : Deployment) : List (Moment × Operation) → Deployment
  | [] => s
  | (m, o) :: os => runFacing ((s.facing m).step o).2 os

end Deployment

/-- What all that a service works with does during one operation. -/
structure Surroundings where
  /-- The services behind the verifiers, unless they stay as they are. -/
  services : Option Moment
  directory : Directory → Directory
  /-- Why audit records cannot be written, by why they could not be written before. -/
  audit : Option String → Option String
  /-- How the directory answers the queries for available regions, one after another. -/
  probes : Lookup → Nat → Lookup
  source : Lookup → Lookup
  /-- Where the clock stands when a pack is put together. -/
  later : Clock → Clock

def Surroundings.still : Surroundings := ⟨none, id, id, fun l _ => l, id, id⟩

def Surroundings.facing (m : Moment) : Surroundings := { still with services := some m }

namespace Lookup

def regionAmid (probes : Nat → Lookup) (explicit : String) (preferred : List String) : String :=
  let found := (regionCandidates explicit preferred).zipIdx.find? fun c =>
    (probes c.2).isAvailable c.1
  (found.map Prod.fst).getD Region.fallback

theorem regionAmid_const (l : Lookup) (explicit : String) (preferred : List String) :
    regionAmid (fun _ => l) explicit preferred = l.chooseRegion explicit preferred := by
  have hfind := List.find?_map (p := l.isAvailable) (f := Prod.fst)
    (l := (regionCandidates explicit preferred).zipIdx)
  rw [List.zipIdx_map_fst] at hfind
  rw [chooseRegion_eq_find?, hfind]
  rfl

end Lookup

namespace Pack.Issuer

def issueAmid (b : Pack.Issuer) (probes : Nat → Lookup) (source : Lookup) (now : Clock)
    (client hint : String) (preferred : List String) (verdict : Option Verdict) :
    Except Directory.Error (String × Pack) := do
  let region := Lookup.regionAmid probes hint preferred
  let es ← source.choose b.policy region verdict b.maxEndpoints
  return (region, (b.draft now client region es).sign b.key)

theorem issueAmid_const (b : Pack.Issuer) (l : Lookup) (now : Clock) (client hint : String)
    (preferred : List String) (verdict : Option Verdict) :
    b.issueAmid (fun _ => l) l now client hint preferred verdict =
      b.issue l now client hint preferred verdict := by
  rw [issueAmid, Lookup.regionAmid_const]
  rfl

end Pack.Issuer

namespace Deployment

def amid (s : Deployment) (a : Surroundings) : Deployment where
  service :=
    match a.services with
    | some m => m.service s.service
    | none => s.service
  world := { s.world with
    directory := a.directory s.world.directory
    faults := { s.world.faults with audit := a.audit s.world.faults.audit } }

def issueForAmid (s : Deployment) (a : Surroundings) (r : PackRequest) (verdict : Option Verdict) :
    Except Service.Error Pack × Deployment :=
  match s.service.issuer.issueAmid (a.probes s.world.lookup) (a.source s.world.lookup)
    (a.later s.world.clock) r.device (regionHint r) r.preferred verdict with
  | .ok (region, p) =>
    (.ok p, { s with world := s.world.emit (.packGenerated region (needsDecoys verdict)) })
  | .error e => (.error (.infrastructure "config_generation_failed" e.message), s)

def issuePackAmid (s : Deployment) (a : Surroundings) (r : PackRequest) :
    Except Service.Error Pack × Deployment :=
  if isBlankText r.device then (.error (.validation "missing_device_id"), s)
  else if (Named.ofName? r.platform : Option Platform).isNone then
    (.error (.validation "unsupported_platform"), s)
  else
    match s.assess r with
    | (.ok verdict, s) => s.issueForAmid a r verdict
    | (.error e, s) => (.error (.verification e), s)

def listingOf (l : Lookup) : Except Service.Error (List ListingEntry) :=
  match l.listed with
  | .ok es => .ok (es.map Endpoint.listingEntry)
  | .error e => .error (.infrastructure "endpoint_listing_failed" e.message)

def stepAmid (s : Deployment) (a : Surroundings) : Operation → Answer × Deployment
  | .issuePack r => Prod.map .pack id ((s.amid a).issuePackAmid a r)
  | .listing => (.listing (listingOf (a.source (s.amid a).world.lookup)), s.amid a)
  | o => (s.amid a).step o

def runAmid (s : Deployment) : List (Surroundings × Operation) → Deployment
  | [] => s
  | (a, o) :: os => runAmid (s.stepAmid a o).2 os

end Deployment

structure Round where
  before : Deployment
  surroundings : Surroundings
  operation : Operation

namespace Round

def scene (t : Round) : Deployment := t.before.amid t.surroundings

def answer (t : Round) : Answer := (t.before.stepAmid t.surroundings t.operation).1

def after (t : Round) : Deployment := (t.before.stepAmid t.surroundings t.operation).2

end Round

namespace Deployment

def rounds (s : Deployment) : List (Surroundings × Operation) → List Round
  | [] => []
  | (a, o) :: os => ⟨s, a, o⟩ :: rounds (s.stepAmid a o).2 os

theorem amid_still (s : Deployment) : s.amid .still = s := rfl

theorem issueForAmid_still (s : Deployment) (r : PackRequest) (verdict : Option Verdict) :
    s.issueForAmid .still r verdict = s.issueFor r verdict := by
  have hissue := s.service.issuer.issueAmid_const s.world.lookup s.world.clock r.device
    (regionHint r) r.preferred verdict
  simp only [issueForAmid, Surroundings.still, id_eq, hissue, issueFor, World.issue]
  cases s.service.issuer.issue s.world.lookup s.world.clock r.device (regionHint r) r.preferred
    verdict <;> rfl

theorem issuePackAmid_still (s : Deployment) (r : PackRequest) :
    s.issuePackAmid .still r = s.issuePack r := by
  rw [issuePackAmid, issuePack]
  rcases s.assess r with ⟨e | verdict, t⟩
  · rfl
  · simp only [issueForAmid_still]

theorem stepAmid_still (s : Deployment) (o : Operation) : s.stepAmid .still o = s.step o := by
  cases o with
  | issuePack r => rw [stepAmid, amid_still, issuePackAmid_still, step]
  | listing | attestClient | logScan | challenge | acceptReport | setLoad | upsert | advance
  | setFaults => rfl

theorem stepAmid_facing (s : Deployment) (m : Moment) (o : Operation) :
    s.stepAmid (.facing m) o = (s.facing m).step o := by
  -- An operation is told about the services by the deployment that it finds, and by nothing else.
  have hcalm : s.stepAmid (.facing m) o = (s.facing m).stepAmid .still o := by cases o <;> rfl
  rw [hcalm, stepAmid_still]

/-- A run with moments is one in which nothing but the services behind the verifiers changes. -/
theorem runFacing_eq_runAmid (s : Deployment) (os : List (Moment × Operation)) :
    s.runFacing os = s.runAmid (os.map (Prod.map .facing id)) := by
  induction os generalizing s with
  | nil => rfl
  | cons mo os ih =>
      rw [runFacing, ih, ← stepAmid_facing]
      rfl

/-- While nothing happens but the operations, the rounds are those of a run of the deployment. -/
theorem run_eq_runAmid_still (s : Deployment) (os : List Operation) :
    s.run os = ((s.rounds (os.map fun o => (.still, o))).map Round.answer,
      s.runAmid (os.map fun o => (.still, o))) := by
  induction os generalizing s with
  | nil => rfl
  | cons o os ih =>
      simp only [run, List.map_cons, rounds, runAmid, Round.answer, stepAmid_still, ih]

end Deployment

end RelayGate
