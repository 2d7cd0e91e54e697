import RelayGate.Proofs.Service.Evaluation
import RelayGate.Proofs.Trust.Wording

namespace RelayGate

def Directory.Error.terse : Directory.Error → Directory.Error
  | notFound _ => notFound ""
  | unavailable _ => unavailable ""

namespace Lookup

def terse (l : Lookup) : Lookup where
  realIn region := (l.realIn region).mapError Directory.Error.terse
  decoysIn region := (l.decoysIn region).mapError Directory.Error.terse
  listed := l.listed.mapError Directory.Error.terse

theorem isAvailable_terse (l : Lookup) : l.terse.isAvailable = l.isAvailable := by
  funext region
  simp only [isAvailable, terse]
  cases l.realIn region <;> rfl

theorem regionAmid_congr {p q : Nat → Lookup} (h : ∀ n, (p n).terse = (q n).terse) :
    regionAmid p = regionAmid q := by
  have havailable (n : Nat) : (p n).isAvailable = (q n).isAvailable := by
    rw [← isAvailable_terse, h, isAvailable_terse]
  funext explicit preferred
  simp only [regionAmid, havailable]

theorem candidates_terse (l : Lookup) (policy : DecoyPolicy) (region : String)
    (verdict : Option Verdict) : l.terse.candidates policy region verdict =
      (l.candidates policy region verdict).mapError Directory.Error.terse := by
  simp only [candidates, terse]
  cases needsDecoys verdict with
  | false => rfl
  | true =>
      cases policy with
      | replace => rfl
      | merge => cases l.decoysIn region <;> cases l.realIn region <;> rfl

theorem choose_terse (l : Lookup) (policy : DecoyPolicy) (region : String) (verdict : Option Verdict)
    (limit : Nat) : l.terse.choose policy region verdict limit =
      (l.choose policy region verdict limit).mapError Directory.Error.terse := by
  rw [choose, choose, candidates_terse]
  cases l.candidates policy region verdict <;> rfl

end Lookup

theorem Pack.Issuer.issueAmid_terse (b : Pack.Issuer) (probes : Nat → Lookup) (source : Lookup)
    (now : Clock) (client hint : String) (preferred : List String) (verdict : Option Verdict) :
    b.issueAmid probes source.terse now client hint preferred verdict =
      (b.issueAmid probes source now client hint preferred verdict).mapError
        Directory.Error.terse := by
  rw [issueAmid, issueAmid, Lookup.choose_terse]
  cases source.choose b.policy (Lookup.regionAmid probes hint preferred) verdict b.maxEndpoints <;> rfl

theorem Pack.Issuer.issueAmid_congr (b : Pack.Issuer) {p q : Nat → Lookup} {l m : Lookup}
    (hprobes : ∀ n, (p n).terse = (q n).terse) (hsource : l.terse = m.terse) (now : Clock)
    (client hint : String) (preferred : List String) (verdict : Option Verdict) :
    (b.issueAmid p l now client hint preferred verdict).mapError Directory.Error.terse =
      (b.issueAmid q m now client hint preferred verdict).mapError Directory.Error.terse := by
  rw [← issueAmid_terse, ← issueAmid_terse, hsource, issueAmid, issueAmid,
    Lookup.regionAmid_congr hprobes]

def Faults.terse (f : Faults) : Faults where
  realIn region := (f.realIn region).map Directory.Error.terse
  decoysIn region := (f.decoysIn region).map Directory.Error.terse
  listed := f.listed.map Directory.Error.terse
  applyReport := f.applyReport.map Directory.Error.terse
  setLoad := f.setLoad.map Directory.Error.terse
  audit := f.audit.map fun _ => ""
  discovery := f.discovery.map fun _ => ""

namespace World

def terse (w : World) : World := { w with faults := w.faults.terse }

theorem failing_terse {α : Type} (fault : Option Directory.Error) (a : Except Directory.Error α) :
    failing (fault.map Directory.Error.terse) (a.mapError Directory.Error.terse) =
      (failing fault a).mapError Directory.Error.terse := by
  cases fault <;> rfl

theorem lookup_terse (w : World) : w.terse.lookup = w.lookup.terse := by
  have hreal : w.terse.lookup.realIn = w.lookup.terse.realIn := by
    funext region
    exact failing_terse (w.faults.realIn region) (w.directory.lookup.realIn region)
  have hdecoys : w.terse.lookup.decoysIn = w.lookup.terse.decoysIn := by
    funext region
    exact failing_terse (w.faults.decoysIn region) (w.directory.lookup.decoysIn region)
  have hlisted : w.terse.lookup.listed = w.lookup.terse.listed :=
    failing_terse w.faults.listed w.directory.lookup.listed
  exact congr (congr (congrArg Lookup.mk hreal) hdecoys) hlisted

theorem attestationEvent_terse (platform : String) (outcome : Except AttestFailure Verdict) :
    attestationEvent platform (outcome.mapError AttestFailure.terse) =
      attestationEvent platform outcome := by
  cases outcome with
  | error e => exact congrArg (fun code => Event.attestation platform .error (some code)) e.code_terse
  | ok v => rfl

end World

theorem auditRecord?_terse (fault : Option String) (i : AttestInput)
    (outcome : Except AttestFailure Verdict) :
    auditRecord? (fault.map fun _ => "") i (outcome.mapError AttestFailure.terse) =
      auditRecord? fault i outcome := by
  cases outcome <;> cases fault <;> rfl

def Service.terse (s : Service) : Service := { s with evaluator := s.evaluator.terse }

def Deployment.terse (s : Deployment) : Deployment := ⟨s.service.terse, s.world.terse⟩

inductive Service.Error.Kind where
  | validation
  | verification
  | infrastructure
  | notFound
deriving DecidableEq

namespace Service.Error

def kind : Service.Error → Kind
  | validation _ => .validation
  | verification _ => .verification
  | infrastructure _ _ => .infrastructure
  | notFound _ => .notFound

def seen (e : Service.Error) : Kind × String := (e.kind, e.publicCode)

end Service.Error

/-- The same value, or errors of one kind with one code. -/
def SameSeen {α : Type} (x y : Except Service.Error α) : Prop :=
  x.mapError Service.Error.seen = y.mapError Service.Error.seen

namespace Deployment

variable {s t : Deployment}

theorem evaluate_terse (s : Deployment) (i : AttestInput) :
    s.terse.evaluate i = Prod.map (Except.mapError AttestFailure.terse) terse (s.evaluate i) := by
  have hevaluator := s.service.evaluator.evaluate_terse i s.world.clock
  have hattempt : s.terse.attempt i = (s.attempt i).terse := congrArg Prod.fst hevaluator
  have hafter : (s.terse.service.evaluator.evaluate i s.terse.world.clock).2 =
      (s.service.evaluator.evaluate i s.world.clock).2.terse := congrArg Prod.snd hevaluator
  have haudit := auditRecord?_terse s.world.faults.audit i (s.attempt i).outcome
  rw [evaluate_eq, evaluate_eq, hattempt, hafter, Attempt.terse, World.attestationEvent_terse]
  dsimp only [terse, World.terse, Faults.terse]
  rw [haudit]
  rfl

theorem assess_terse (s : Deployment) (r : PackRequest) :
    s.terse.assess r = Prod.map (Except.mapError AttestFailure.terse) terse (s.assess r) := by
  rw [assess, assess]
  cases given r.attestation with
  | none => rfl
  | some token =>
      dsimp only
      rw [evaluate_terse]
      rcases s.evaluate ⟨r.platform, token, r.device, r.keyId⟩ with ⟨e | v, t⟩ <;> rfl

/-- Wording changes nothing in what is seen of the result, and nothing but wording in what is left. -/
def WordingFree {α : Type} (op : Deployment → Except Service.Error α × Deployment) : Prop :=
  ∀ s, Prod.map (Except.mapError Service.Error.seen) id (op s.terse) =
    Prod.map (Except.mapError Service.Error.seen) terse (op s)

structure Alike {α : Type} (x y : Except Service.Error α × Deployment) : Prop where
  result : SameSeen x.1 y.1
  after : x.2.terse = y.2.terse

theorem WordingFree.alike {α : Type} {op : Deployment → Except Service.Error α × Deployment}
    (hop : WordingFree op) (h : s.terse = t.terse) : Alike (op s) (op t) := by
  have hs := hop s
  rw [h, hop t] at hs
  exact ⟨(congrArg Prod.fst hs).symm, (congrArg Prod.snd hs).symm⟩

theorem wordingFree_attestClient (r : AttestRequest) : WordingFree fun s => s.attestClient r := by
  intro s
  simp only [attestClient]
  by_cases hdevice : isBlankText r.device
  · rw [if_pos hdevice, if_pos hdevice]
    rfl
  · rw [if_neg hdevice, if_neg hdevice, evaluate_terse]
    rcases s.evaluate ⟨r.platform, r.token, r.device, r.keyId⟩ with ⟨e | v, t⟩ <;> rfl

theorem wordingFree_logScan (r : ScanReport) : WordingFree fun s => s.logScan r := by
  rintro ⟨service, clock, directory, audit, scans, events, calls, faults⟩
  simp only [logScan]
  cases (Named.ofName? r.channel : Option Channel) with
  | none => rfl
  | some channel =>
      obtain ⟨real, decoys, listed, report, load, record, fault⟩ := faults
      cases fault <;> rfl

theorem wordingFree_acceptReport (r : OperatorReport) : WordingFree fun s => s.acceptReport r := by
  rintro ⟨service, clock, directory, audit, scans, events, calls, faults⟩
  simp only [acceptReport]
  by_cases hid : isBlankText r.gateway
  · rw [if_pos hid, if_pos hid]
    rfl
  · rw [if_neg hid, if_neg hid]
    cases (Named.ofName? r.status : Option RelayStatus) with
    | none => rfl
    | some status =>
        cases isUptime r.uptime with
        | false => rfl
        | true =>
            obtain ⟨real, decoys, listed, fault, load, record, scan⟩ := faults
            cases fault with
            | some e => cases e <;> rfl
            | none =>
                simp only [World.applyReport, World.failing, terse, World.terse, Faults.terse,
                  Option.map_none]
                cases directory.applyReport clock.seconds (statusUpdate r status) <;> rfl

theorem wordingFree_setLoad (id : String) (load : Binary64) :
    WordingFree fun s => s.setLoad id load := by
  rintro ⟨service, clock, directory, audit, scans, events, calls, faults⟩
  obtain ⟨real, decoys, listed, report, fault, record, scan⟩ := faults
  cases fault with
  | some e => cases e <;> rfl
  | none =>
      simp only [setLoad, World.setLoad, World.failing, terse, World.terse, Faults.terse,
        Option.map_none]
      cases directory.setLoad clock.seconds id (storedLoad load) <;> rfl

end Deployment

end RelayGate
