import RelayGate.Proofs.Service.Surroundings
import RelayGate.Proofs.Service.Writes
import RelayGate.Proofs.Trust.Dispatch

namespace RelayGate

/-- The record of an evaluation: there is one if a verdict was reached and records can be written. -/
def auditRecord? (fault : Option String) (i : AttestInput) :
    Except AttestFailure Verdict → Option AuditRecord
  | .ok v =>
    match fault with
    | none => some ⟨i.device, i.platform, i.token, v.isValid, v.tier, v.time⟩
    | some _ => none
  | .error _ => none

theorem Verdict.IsAbout.record {v : Verdict} {i : AttestInput} {now : Clock} (h : v.IsAbout i now) :
    AuditRecord.ofVerdict v i.token = ⟨i.device, i.platform, i.token, v.isValid, v.tier, v.time⟩ := by
  rw [AuditRecord.ofVerdict, h.device, h.platform]

structure PackRequest.Admissible (r : PackRequest) : Prop where
  device : ∃ c ∈ r.device.toList, Text.isBlank c = false
  platform : r.platform = "android" ∨ r.platform = "ios"

instance (r : PackRequest) : Decidable r.Admissible :=
  decidable_of_iff
    (Deployment.isBlankText r.device = false ∧ (r.platform = "android" ∨ r.platform = "ios"))
    ⟨fun h => ⟨Deployment.isBlankText_eq_false_iff.1 h.1, h.2⟩,
      fun h => ⟨Deployment.isBlankText_eq_false_iff.2 h.device, h.platform⟩⟩

theorem Platform.isSome_ofName?_iff {text : String} :
    (Named.ofName? text : Option Platform).isSome = true ↔ text = "android" ∨ text = "ios" := by
  have hname (p : Platform) : Named.ofName? (Named.name p) = some p := by cases p <;> decide
  constructor
  · intro h
    obtain ⟨p, hp⟩ := Option.isSome_iff_exists.1 h
    rw [← Named.name_of_ofName? hp]
    cases p with
    | android => exact .inl rfl
    | ios => exact .inr rfl
  · rintro (rfl | rfl)
    · exact Option.isSome_of_eq_some (hname .android)
    · exact Option.isSome_of_eq_some (hname .ios)

namespace Deployment

variable {s : Deployment}

def attempt (s : Deployment) (i : AttestInput) : Attempt :=
  (s.service.evaluator.evaluate i s.world.clock).1

theorem evaluate_eq (s : Deployment) (i : AttestInput) :
    s.evaluate i = ((s.attempt i).outcome,
      { service := { s.service with
          evaluator := (s.service.evaluator.evaluate i s.world.clock).2 }
        world := { s.world with
          calls := s.world.calls ++ (s.attempt i).calls
          events := s.world.events ++ [World.attestationEvent i.platform (s.attempt i).outcome]
          audit := s.world.audit ++
            (auditRecord? s.world.faults.audit i (s.attempt i).outcome).toList } }) := by
  simp only [attempt, evaluate, World.evaluate]
  cases ho : (s.service.evaluator.evaluate i s.world.clock).1.outcome with
  | error e =>
      simp only [auditRecord?, Option.toList_none, List.append_nil]
      rfl
  | ok v =>
      have hrecord := (Evaluator.isAbout_evaluate ho).record
      cases hf : s.world.faults.audit with
      | none =>
          simp only [World.logVerdict, World.emit, hf, auditRecord?, hrecord]
          rfl
      | some fault =>
          simp only [World.logVerdict, World.emit, hf, auditRecord?, Option.toList_none,
            List.append_nil]

def attestInput (r : AttestRequest) : AttestInput := ⟨r.platform, r.token, r.device, r.keyId⟩

theorem attestClient_of_blank {r : AttestRequest} (h : ∀ c ∈ r.device.toList, Text.isBlank c = true) :
    s.attestClient r = (.error (.validation "missing_device_id"), s) := by
  have hdevice : isBlankText r.device = true := (Text.isEmpty_trim_iff r.device).2 h
  rw [attestClient, if_pos hdevice]

theorem attestClient_of_visible {r : AttestRequest}
    (h : ∃ c ∈ r.device.toList, Text.isBlank c = false) :
    s.attestClient r = (((s.evaluate (attestInput r)).1.mapError .verification).map .ofVerdict,
      (s.evaluate (attestInput r)).2) := by
  have hdevice := isBlankText_eq_false_iff.2 h
  rw [attestClient, if_neg (by rw [hdevice]; exact Bool.false_ne_true), attestInput]
  rcases s.evaluate ⟨r.platform, r.token, r.device, r.keyId⟩ with ⟨e | v, t⟩ <;> rfl

end Deployment

def Operation.evaluated? : Operation → Option AttestInput
  | .issuePack r =>
    if r.Admissible then (Deployment.given r.attestation).map (Deployment.input r) else none
  | .attestClient r =>
    if Deployment.isBlankText r.device then none else some (Deployment.attestInput r)
  | _ => none

namespace Deployment

variable {s : Deployment} {a : Surroundings} {r : PackRequest}

theorem given_eq_none_iff {o : Option String} : given o = none ↔ o = none ∨ o = some "" := by
  cases o with
  | none => simp [given]
  | some t => simp [given]

inductive Assessed (s : Deployment) (r : PackRequest) : Option Verdict → Deployment → Prop
  | unattested (htoken : r.attestation = none ∨ r.attestation = some "") : Assessed s r none s
  | attested {token : String} {v : Verdict} (htoken : r.attestation = some token) (hne : token ≠ "")
      (hv : (s.evaluate (input r token)).1 = .ok v) :
      Assessed s r (some v) (s.evaluate (input r token)).2

inductive Course (s : Deployment) (a : Surroundings) (r : PackRequest) :
    Except Service.Error Pack × Deployment → Prop
  | refused {code : String} (h : ¬ r.Admissible) : Course s a r (.error (.validation code), s)
  | failed {token : String} {e : AttestFailure} (h : r.Admissible)
      (htoken : r.attestation = some token) (hne : token ≠ "")
      (he : (s.evaluate (input r token)).1 = .error e) :
      Course s a r (.error (.verification e), (s.evaluate (input r token)).2)
  | served {verdict : Option Verdict} {t : Deployment} (h : r.Admissible)
      (hassessed : s.Assessed r verdict t) : Course s a r (t.issueForAmid a r verdict)

theorem Assessed.assess_eq {verdict : Option Verdict} {t : Deployment}
    (h : s.Assessed r verdict t) : s.assess r = (.ok verdict, t) := by
  cases h with
  | unattested htoken => simp only [assess, given_eq_none_iff.2 htoken]
  | attested htoken hne hv =>
      rw [assess_of_token htoken hne, hv]
      rfl

theorem assess_of_failed {token : String} {e : AttestFailure} (htoken : r.attestation = some token)
    (hne : token ≠ "") (he : (s.evaluate (input r token)).1 = .error e) :
    s.assess r = (.error e, (s.evaluate (input r token)).2) := by
  rw [assess_of_token htoken hne, he]
  rfl

theorem assessed_or_failed (s : Deployment) (r : PackRequest) :
    (∃ verdict t, s.Assessed r verdict t) ∨
      ∃ token e, r.attestation = some token ∧ token ≠ "" ∧
        (s.evaluate (input r token)).1 = .error e := by
  cases hgiven : given r.attestation with
  | none => exact .inl ⟨_, _, .unattested (given_eq_none_iff.1 hgiven)⟩
  | some token =>
      obtain ⟨htoken, hne⟩ := given_eq_some hgiven
      cases he : (s.evaluate (input r token)).1 with
      | error e => exact .inr ⟨token, e, htoken, hne, he⟩
      | ok v => exact .inl ⟨_, _, .attested htoken hne he⟩

theorem issuePackAmid_of_admissible (h : r.Admissible) :
    s.issuePackAmid a r =
      match s.assess r with
      | (.ok verdict, t) => t.issueForAmid a r verdict
      | (.error e, t) => (.error (.verification e), t) := by
  have hdevice := isBlankText_eq_false_iff.2 h.device
  have hplatform := Platform.isSome_ofName?_iff.2 h.platform
  have hblank : ¬ isBlankText r.device = true := by rw [hdevice]; exact Bool.false_ne_true
  have hunknown : ¬ (Named.ofName? r.platform : Option Platform).isNone = true := by
    rw [← Option.not_isSome, hplatform]
    exact Bool.false_ne_true
  exact (if_neg hblank).trans (if_neg hunknown)

theorem issuePackAmid_of_not_admissible (h : ¬ r.Admissible) :
    ∃ code, s.issuePackAmid a r = (.error (.validation code), s) := by
  by_cases hdevice : isBlankText r.device
  · exact ⟨_, by rw [issuePackAmid, if_pos hdevice]⟩
  · by_cases hplatform : (Named.ofName? r.platform : Option Platform).isNone
    · exact ⟨_, by rw [issuePackAmid, if_neg hdevice, if_pos hplatform]⟩
    · rw [← Option.not_isSome, Bool.not_eq_true', Bool.not_eq_false,
        Platform.isSome_ofName?_iff] at hplatform
      exact absurd ⟨isBlankText_eq_false_iff.1 (Bool.eq_false_iff.2 hdevice), hplatform⟩ h

theorem issuePackAmid_of_assessed (h : r.Admissible) {verdict : Option Verdict} {t : Deployment}
    (hassessed : s.Assessed r verdict t) : s.issuePackAmid a r = t.issueForAmid a r verdict := by
  rw [issuePackAmid_of_admissible h, hassessed.assess_eq]

theorem issuePackAmid_of_failed (h : r.Admissible) {token : String} {e : AttestFailure}
    (htoken : r.attestation = some token) (hne : token ≠ "")
    (he : (s.evaluate (input r token)).1 = .error e) :
    s.issuePackAmid a r = (.error (.verification e), (s.evaluate (input r token)).2) := by
  rw [issuePackAmid_of_admissible h, assess_of_failed htoken hne he]

theorem course_issuePackAmid (s : Deployment) (a : Surroundings) (r : PackRequest) :
    s.Course a r (s.issuePackAmid a r) := by
  by_cases h : r.Admissible
  · rcases s.assessed_or_failed r with ⟨verdict, t, hassessed⟩ | ⟨token, e, htoken, hne, he⟩
    · rw [issuePackAmid_of_assessed h hassessed]
      exact .served h hassessed
    · rw [issuePackAmid_of_failed h htoken hne he]
      exact .failed h htoken hne he
  · obtain ⟨code, hcode⟩ := issuePackAmid_of_not_admissible (s := s) (a := a) h
    rw [hcode]
    exact .refused h

/-- The deployment after the evaluation of a client, if there is one. -/
def attended (s : Deployment) : Option AttestInput → Deployment
  | some i => (s.evaluate i).2
  | none => s

def telling (s : Deployment) (events : List Event) : Deployment :=
  { s with world := { s.world with events := events } }

theorem service_telling (s : Deployment) (events : List Event) :
    (s.telling events).service = s.service := rfl

theorem after_issueForAmid (s : Deployment) (a : Surroundings) (r : PackRequest)
    (verdict : Option Verdict) : ∃ events, (s.issueForAmid a r verdict).2 = s.telling events := by
  rw [issueForAmid]
  split
  · exact ⟨_, rfl⟩
  · exact ⟨s.world.events, rfl⟩

theorem evaluated?_of_token {token : String} (h : r.Admissible) (htoken : r.attestation = some token)
    (hne : token ≠ "") : (Operation.issuePack r).evaluated? = some (input r token) := by
  rw [Operation.evaluated?, if_pos h, htoken, given_of_ne hne]
  rfl

theorem Assessed.eq_attended {verdict : Option Verdict} {t : Deployment} (h : r.Admissible)
    (hassessed : s.Assessed r verdict t) : t = s.attended (Operation.issuePack r).evaluated? := by
  cases hassessed with
  | unattested htoken =>
      rw [Operation.evaluated?, if_pos h, given_eq_none_iff.2 htoken]
      rfl
  | attested htoken hne hv =>
      rw [evaluated?_of_token h htoken hne]
      rfl

theorem after_issuePackAmid (s : Deployment) (a : Surroundings) (r : PackRequest) : ∃ events,
    (s.issuePackAmid a r).2 = (s.attended (Operation.issuePack r).evaluated?).telling events := by
  have hcourse := s.course_issuePackAmid a r
  generalize s.issuePackAmid a r = result at hcourse
  cases hcourse with
  | refused h =>
      rw [Operation.evaluated?, if_neg h]
      exact ⟨s.world.events, rfl⟩
  | @failed token e h htoken hne he =>
      rw [evaluated?_of_token h htoken hne]
      exact ⟨(s.evaluate (input r token)).2.world.events, rfl⟩
  | @served verdict t h hassessed =>
      rw [← hassessed.eq_attended h]
      exact t.after_issueForAmid a r verdict

theorem after_attestClient (s : Deployment) (r : AttestRequest) :
    (s.attestClient r).2 = s.attended (Operation.attestClient r).evaluated? := by
  by_cases hdevice : isBlankText r.device
  · rw [Operation.evaluated?, if_pos hdevice, attestClient, if_pos hdevice]
    rfl
  · have hvisible := isBlankText_eq_false_iff.1 (Bool.eq_false_iff.2 hdevice)
    rw [Operation.evaluated?, if_neg hdevice, attestClient_of_visible hvisible]
    rfl

end Deployment

def Service.attended (s : Service) (now : Clock) : Option AttestInput → Service
  | some i => { s with evaluator := (s.evaluator.evaluate i now).2 }
  | none => s

namespace Deployment

theorem service_attended (s : Deployment) (i : Option AttestInput) :
    (s.attended i).service = s.service.attended s.world.clock i := by
  cases i with
  | none => rfl
  | some i => exact s.service_evaluate i

theorem service_write (s : Deployment) {o : Operation} (ho : o.isWrite = true) :
    (s.step o).2.service = s.service := by
  rcases s.step_write ho with ⟨t, h, hwrite⟩ | ⟨e, h, -⟩
  · rw [h]
    exact hwrite.service
  · rw [h]

theorem service_stepAmid (s : Deployment) (a : Surroundings) (o : Operation) :
    (s.stepAmid a o).2.service = (s.amid a).service.attended (s.amid a).world.clock o.evaluated? := by
  cases o with
  | issuePack r =>
      obtain ⟨events, hafter⟩ := (s.amid a).after_issuePackAmid a r
      simp only [stepAmid, Prod.map_snd, id_eq]
      rw [hafter, service_telling, service_attended]
  | attestClient r =>
      simp only [stepAmid, step, Prod.map_snd, id_eq]
      rw [after_attestClient, service_attended]
  | acceptReport | setLoad | logScan => exact (s.amid a).service_write rfl
  | listing | challenge | upsert | advance | setFaults => rfl

theorem service_step (s : Deployment) (o : Operation) :
    (s.step o).2.service = s.service.attended s.world.clock o.evaluated? := by
  rw [← stepAmid_still]
  exact s.service_stepAmid .still o

theorem issuer_step (s : Deployment) (o : Operation) :
    (s.step o).2.service.issuer = s.service.issuer := by
  rw [service_step]
  cases o.evaluated? <;> rfl

end Deployment

end RelayGate
