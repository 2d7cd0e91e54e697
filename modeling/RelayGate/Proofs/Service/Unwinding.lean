import RelayGate.Proofs.Service.Surroundings

/-!
What answers do not depend on. Main statement: two deployments that agree on the issuer, the clock, the
directory, the faults and all evaluations to come give the same answer to every operation, and agree
afterwards. Neither the audit trail nor whether it can be written to takes part in this.
-/

namespace RelayGate

def Faults.unaudited (f : Faults) : Faults := { f with audit := Option.none }

def Operation.unaudited : Operation → Operation
  | .setFaults f => .setFaults f.unaudited
  | o => o

theorem World.lookup_congr {w₁ w₂ : World} (hd : w₁.directory = w₂.directory)
    (hf : w₁.faults.unaudited = w₂.faults.unaudited) : w₁.lookup = w₂.lookup := by
  have hself (w : World) : w.lookup = World.lookup { World.atClock w₁.clock with
      directory := w.directory
      faults := w.faults.unaudited } := rfl
  rw [hself w₁, hself w₂, hd, hf]

/-- The answers are the same, and the deployments are related afterwards. -/
structure Agree (R : Deployment → Deployment → Prop) {α : Type} (x y : α × Deployment) : Prop where
  answer : x.1 = y.1
  after : R x.2 y.2

/-- Deployments that are related agree on what is read and on every evaluation, and are still related
after they have been written to in the same way. -/
structure Unwinding (R : Deployment → Deployment → Prop) : Prop where
  issuer {s t : Deployment} (h : R s t) : s.service.issuer = t.service.issuer
  clock {s t : Deployment} (h : R s t) : s.world.clock = t.world.clock
  directory {s t : Deployment} (h : R s t) : s.world.directory = t.world.directory
  faults {s t : Deployment} (h : R s t) : s.world.faults.unaudited = t.world.faults.unaudited
  evaluate {s t : Deployment} (h : R s t) (i : AttestInput) : Agree R (s.evaluate i) (t.evaluate i)
  emit {s t : Deployment} (h : R s t) (e : Event) :
    R { s with world := s.world.emit e } { t with world := t.world.emit e }
  record {s t : Deployment} (h : R s t) (r : ScanRecord) :
    R { s with world := { s.world with scans := s.world.scans ++ [r] } }
      { t with world := { t.world with scans := t.world.scans ++ [r] } }
  rewrite {s t : Deployment} (h : R s t) (d : Directory) :
    R { s with world := { s.world with directory := d } }
      { t with world := { t.world with directory := d } }
  advance {s t : Deployment} (h : R s t) (now : Clock) :
    R { s with world := { s.world with clock := now } }
      { t with world := { t.world with clock := now } }
  fail {s t : Deployment} (h : R s t) {f g : Faults} (hfg : f.unaudited = g.unaudited) :
    R { s with world := { s.world with faults := f } } { t with world := { t.world with faults := g } }

variable {R : Deployment → Deployment → Prop}

namespace Agree

variable {α β : Type} {x y : α × Deployment}

theorem map (h : Agree R x y) (f : α → β) : Agree R (Prod.map f id x) (Prod.map f id y) :=
  ⟨congrArg f h.answer, h.after⟩

theorem exists_eq (h : Agree R x y) : ∃ a s t, x = (a, s) ∧ y = (a, t) ∧ R s t :=
  ⟨x.1, x.2, y.2, rfl, Prod.ext h.answer.symm rfl, h.after⟩

end Agree

namespace Unwinding

variable {s t : Deployment}

theorem lookup (hR : Unwinding R) (h : R s t) : s.world.lookup = t.world.lookup :=
  World.lookup_congr (hR.directory h) (hR.faults h)

theorem assess (hR : Unwinding R) (h : R s t) (r : PackRequest) :
    Agree R (s.assess r) (t.assess r) := by
  unfold Deployment.assess
  cases Deployment.given r.attestation with
  | none => exact ⟨rfl, h⟩
  | some token =>
      obtain ⟨outcome, s', t', hs, ht, hafter⟩ :=
        (hR.evaluate h ⟨r.platform, token, r.device, r.keyId⟩).exists_eq
      simp only [hs, ht]
      cases outcome <;> exact ⟨rfl, hafter⟩

theorem issueForAmid (hR : Unwinding R) (h : R s t) {a b : Surroundings} (r : PackRequest)
    (verdict : Option Verdict) (hprobes : a.probes = b.probes) (hsource : a.source = b.source)
    (hlater : a.later = b.later) :
    Agree R (s.issueForAmid a r verdict) (t.issueForAmid b r verdict) := by
  unfold Deployment.issueForAmid
  rw [hR.issuer h, hR.lookup h, hR.clock h, hprobes, hsource, hlater]
  cases t.service.issuer.issueAmid (b.probes t.world.lookup) (b.source t.world.lookup)
    (b.later t.world.clock) r.device (Deployment.regionHint r) r.preferred verdict with
  | error e => exact ⟨rfl, h⟩
  | ok x => exact ⟨rfl, hR.emit h _⟩

theorem issuePackAmid (hR : Unwinding R) (h : R s t) {a b : Surroundings} (r : PackRequest)
    (hprobes : a.probes = b.probes) (hsource : a.source = b.source) (hlater : a.later = b.later) :
    Agree R (s.issuePackAmid a r) (t.issuePackAmid b r) := by
  unfold Deployment.issuePackAmid
  by_cases hdevice : Deployment.isBlankText r.device
  · rw [if_pos hdevice, if_pos hdevice]
    exact ⟨rfl, h⟩
  · by_cases hplatform : (Named.ofName? r.platform : Option Platform).isNone
    · rw [if_neg hdevice, if_neg hdevice, if_pos hplatform, if_pos hplatform]
      exact ⟨rfl, h⟩
    · rw [if_neg hdevice, if_neg hdevice, if_neg hplatform, if_neg hplatform]
      obtain ⟨verdict, s', t', hs, ht, hafter⟩ := (hR.assess h r).exists_eq
      simp only [hs, ht]
      cases verdict with
      | error e => exact ⟨rfl, hafter⟩
      | ok verdict => exact hR.issueForAmid hafter r verdict hprobes hsource hlater

theorem attestClient (hR : Unwinding R) (h : R s t) (r : AttestRequest) :
    Agree R (s.attestClient r) (t.attestClient r) := by
  unfold Deployment.attestClient
  by_cases hdevice : Deployment.isBlankText r.device
  · rw [if_pos hdevice, if_pos hdevice]
    exact ⟨rfl, h⟩
  · rw [if_neg hdevice, if_neg hdevice]
    obtain ⟨outcome, s', t', hs, ht, hafter⟩ :=
      (hR.evaluate h ⟨r.platform, r.token, r.device, r.keyId⟩).exists_eq
    simp only [hs, ht]
    cases outcome <;> exact ⟨rfl, hafter⟩

theorem logScan (hR : Unwinding R) (h : R s t) (r : ScanReport) :
    Agree R (s.logScan r) (t.logScan r) := by
  have hfault : s.world.faults.discovery = t.world.faults.discovery :=
    (congrArg Faults.discovery (hR.faults h) :)
  unfold Deployment.logScan
  cases (Named.ofName? r.channel : Option Channel) with
  | none => exact ⟨rfl, h⟩
  | some channel =>
      have hrecord := congrArg (fun c => Deployment.scanRecord channel r c.seconds) (hR.clock h)
      dsimp only [World.logScan] at hrecord ⊢
      rw [hfault, hrecord]
      cases t.world.faults.discovery with
      | some detail => exact ⟨rfl, h⟩
      | none => exact ⟨rfl, hR.emit (hR.record h _) _⟩

theorem applyReport (hR : Unwinding R) (h : R s t) (r : RelayReport) :
    World.failing s.world.faults.applyReport
        (s.world.directory.applyReport s.world.clock.seconds r) =
      World.failing t.world.faults.applyReport
        (t.world.directory.applyReport t.world.clock.seconds r) := by
  have hfault : s.world.faults.applyReport = t.world.faults.applyReport :=
    (congrArg Faults.applyReport (hR.faults h) :)
  rw [hfault, hR.clock h, hR.directory h]

theorem acceptReport (hR : Unwinding R) (h : R s t) (r : OperatorReport) :
    Agree R (s.acceptReport r) (t.acceptReport r) := by
  unfold Deployment.acceptReport
  by_cases hid : Deployment.isBlankText r.gateway
  · rw [if_pos hid, if_pos hid]
    exact ⟨rfl, h⟩
  · rw [if_neg hid, if_neg hid]
    cases (Named.ofName? r.status : Option RelayStatus) with
    | none => exact ⟨rfl, h⟩
    | some status =>
        dsimp only [World.applyReport]
        rw [hR.applyReport h]
        cases Deployment.isUptime r.uptime with
        | false => exact ⟨rfl, h⟩
        | true =>
            cases World.failing t.world.faults.applyReport (t.world.directory.applyReport
              t.world.clock.seconds (Deployment.statusUpdate r status)) with
            | error e => exact ⟨rfl, h⟩
            | ok d => exact ⟨rfl, hR.emit (hR.rewrite h d) _⟩

theorem setLoad (hR : Unwinding R) (h : R s t) (id : String) (load : Binary64) :
    Agree R (s.setLoad id load) (t.setLoad id load) := by
  have hfault : s.world.faults.setLoad = t.world.faults.setLoad :=
    (congrArg Faults.setLoad (hR.faults h) :)
  have hload : World.failing s.world.faults.setLoad
        (s.world.directory.setLoad s.world.clock.seconds id (storedLoad load)) =
      World.failing t.world.faults.setLoad
        (t.world.directory.setLoad t.world.clock.seconds id (storedLoad load)) := by
    rw [hfault, hR.clock h, hR.directory h]
  unfold Deployment.setLoad World.setLoad
  rw [hload]
  cases World.failing t.world.faults.setLoad
    (t.world.directory.setLoad t.world.clock.seconds id (storedLoad load)) with
  | error e => exact ⟨rfl, h⟩
  | ok d => exact ⟨rfl, hR.rewrite h d⟩

theorem step (hR : Unwinding R) (h : R s t) (o : Operation) : Agree R (s.step o) (t.step o) := by
  cases o with
  | issuePack r =>
      have hagree := hR.issuePackAmid h r (a := .still) (b := .still) rfl rfl rfl
      rw [Deployment.issuePackAmid_still, Deployment.issuePackAmid_still] at hagree
      exact hagree.map Answer.pack
  | attestClient r => exact (hR.attestClient h r).map Answer.outcome
  | logScan r => exact (hR.logScan h r).map Answer.written
  | listing => exact ⟨congrArg (Answer.listing ∘ Deployment.listingOf) (hR.lookup h), h⟩
  | challenge entropy => exact ⟨rfl, h⟩
  | acceptReport r => exact (hR.acceptReport h r).map Answer.written
  | setLoad id load => exact (hR.setLoad h id load).map Answer.written
  | upsert e =>
      refine ⟨rfl, ?_⟩
      dsimp only [Deployment.step, World.upsert]
      rw [hR.directory h]
      exact hR.rewrite h _
  | advance millis =>
      refine ⟨rfl, ?_⟩
      dsimp only [Deployment.step, World.advance]
      rw [hR.clock h]
      exact hR.advance h _
  | setFaults f => exact ⟨rfl, hR.fail h rfl⟩

end Unwinding

end RelayGate
