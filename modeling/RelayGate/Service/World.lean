import RelayGate.Pack.Issuer
import RelayGate.Service.Request
import RelayGate.Trust.Audit
import RelayGate.Trust.Evaluator

/-!
What the service works on: the clock, the directory, the trails that it leaves, and which of the
stores fail at present. A call to a store that fails changes nothing.
-/

namespace RelayGate

inductive Outcome where
  | valid
  | invalid
  | error
deriving DecidableEq

inductive Event where
  | attestation (platform : String) (outcome : Outcome) (reason : Option String)
  | packGenerated (region : String) (decoy : Bool)
  | statusUpdated (endpoint : String) (status : RelayStatus)
  | discoveryLogged (channel : Channel) (success : Bool)
deriving DecidableEq

structure Faults where
  realIn : String → Option Directory.Error
  decoysIn : String → Option Directory.Error
  listed : Option Directory.Error
  applyReport : Option Directory.Error
  setLoad : Option Directory.Error
  audit : Option String
  discovery : Option String

def Faults.none : Faults := ⟨fun _ => .none, fun _ => .none, .none, .none, .none, .none, .none⟩

structure World where
  clock : Clock
  directory : Directory
  audit : List AuditRecord
  scans : List ScanRecord
  events : List Event
  calls : List BackendCall
  faults : Faults

namespace World

def atClock (clock : Clock) : World := ⟨clock, .empty, [], [], [], [], .none⟩

def emit (w : World) (e : Event) : World := { w with events := w.events ++ [e] }

def upsert (w : World) (e : Endpoint) : World := { w with directory := w.directory.upsert e }

def advance (w : World) (millis : UInt64) : World := { w with clock := w.clock.advance millis }

def failing {α : Type} (fault : Option Directory.Error) (a : Except Directory.Error α) :
    Except Directory.Error α :=
  match fault with
  | some e => .error e
  | none => a

def lookup (w : World) : Lookup where
  realIn region := failing (w.faults.realIn region) (w.directory.lookup.realIn region)
  decoysIn region := failing (w.faults.decoysIn region) (w.directory.lookup.decoysIn region)
  listed := failing w.faults.listed w.directory.lookup.listed

def applyReport (w : World) (r : RelayReport) : Except Directory.Error Unit × World :=
  match failing w.faults.applyReport (w.directory.applyReport w.clock.seconds r) with
  | .ok d => (.ok (), { w with directory := d })
  | .error e => (.error e, w)

def setLoad (w : World) (id : String) (load : Binary64) : Except Directory.Error Unit × World :=
  match failing w.faults.setLoad (w.directory.setLoad w.clock.seconds id load) with
  | .ok d => (.ok (), { w with directory := d })
  | .error e => (.error e, w)

/-- A record that cannot be written is lost, and nobody is told. -/
def logVerdict (w : World) (r : AuditRecord) : World :=
  match w.faults.audit with
  | some _ => w
  | none => { w with audit := w.audit ++ [r] }

def logScan (w : World) (r : ScanRecord) : Except String Unit × World :=
  match w.faults.discovery with
  | some detail => (.error detail, w)
  | none => (.ok (), { w with scans := w.scans ++ [r] })

def attestationEvent (platform : String) : Except AttestFailure Verdict → Event
  | .ok v => .attestation platform (if v.isValid then .valid else .invalid) (v.reason.map Named.name)
  | .error e => .attestation platform .error (some e.code)

def evaluate (w : World) (e : Evaluator) (i : AttestInput) :
    Except AttestFailure Verdict × Evaluator × World :=
  let (attempt, e) := e.evaluate i w.clock
  let w := { w with calls := w.calls ++ attempt.calls }
  let w := w.emit (attestationEvent i.platform attempt.outcome)
  match attempt.outcome with
  | .ok v => (.ok v, e, w.logVerdict (.ofVerdict v i.token))
  | .error err => (.error err, e, w)

def issue (w : World) (b : Pack.Issuer) (client hint : String) (preferred : List String)
    (verdict : Option Verdict) : Except Directory.Error Pack × World :=
  match b.issue w.lookup w.clock client hint preferred verdict with
  | .ok (region, p) => (.ok p, w.emit (.packGenerated region (needsDecoys verdict)))
  | .error e => (.error e, w)

end World

end RelayGate
