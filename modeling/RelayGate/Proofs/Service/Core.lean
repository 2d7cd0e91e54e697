import RelayGate.Proofs.Service.World
import RelayGate.Service.Operation

namespace RelayGate.Deployment

variable {s : Deployment}

theorem outcome_evaluate (s : Deployment) (i : AttestInput) :
    (s.evaluate i).1 = (s.service.evaluator.evaluate i s.world.clock).1.outcome := by
  simp only [evaluate, World.evaluate]
  cases (s.service.evaluator.evaluate i s.world.clock).1.outcome <;> rfl

theorem service_evaluate (s : Deployment) (i : AttestInput) : (s.evaluate i).2.service =
    { s.service with evaluator := (s.service.evaluator.evaluate i s.world.clock).2 } := by
  simp only [evaluate, World.evaluate]
  cases (s.service.evaluator.evaluate i s.world.clock).1.outcome <;> rfl

theorem given_eq_some {o : Option String} {t : String} (h : given o = some t) :
    o = some t ∧ t ≠ "" := by
  obtain ⟨ho, hne⟩ := Option.filter_eq_some_iff.1 h
  simpa [ho] using hne

def input (r : PackRequest) (token : String) : AttestInput := ⟨r.platform, token, r.device, r.keyId⟩

theorem given_of_ne {t : String} (hne : t ≠ "") : given (some t) = some t := by
  simpa [given] using hne

theorem assess_of_token {r : PackRequest} {token : String} (htoken : r.attestation = some token)
    (hne : token ≠ "") :
    s.assess r = ((s.evaluate (input r token)).1.map some, (s.evaluate (input r token)).2) := by
  simp only [assess, htoken, given_of_ne hne, input]
  rcases s.evaluate ⟨r.platform, token, r.device, r.keyId⟩ with ⟨e | v, t⟩ <;> rfl

theorem assess_cases (s : Deployment) (r : PackRequest) :
    s.assess r = (.ok none, s) ∨
      ∃ token, r.attestation = some token ∧ token ≠ "" ∧
        s.assess r = ((s.evaluate (input r token)).1.map some, (s.evaluate (input r token)).2) := by
  cases hg : given r.attestation with
  | none =>
      left
      simp only [assess, hg]
  | some token =>
      obtain ⟨htoken, hne⟩ := given_eq_some hg
      exact .inr ⟨token, htoken, hne, assess_of_token htoken hne⟩

/-- The request is refused as it stands, or for its evaluation, or a pack is put together. -/
theorem issuePack_cases (s : Deployment) (r : PackRequest) :
    (∃ code, s.issuePack r = (.error (.validation code), s)) ∨
      (∃ e, (s.assess r).1 = .error e ∧
        s.issuePack r = (.error (.verification e), (s.assess r).2)) ∨
      ∃ verdict, (s.assess r).1 = .ok verdict ∧
        s.issuePack r = (s.assess r).2.issueFor r verdict := by
  by_cases hd : isBlankText r.device
  · exact .inl ⟨_, by rw [issuePack, if_pos hd]⟩
  · by_cases hp : (Named.ofName? r.platform : Option Platform).isNone
    · exact .inl ⟨_, by rw [issuePack, if_neg hd, if_pos hp]⟩
    · right
      rw [issuePack, if_neg hd, if_neg hp]
      rcases s.assess r with ⟨e | verdict, t⟩
      · exact .inl ⟨e, rfl, rfl⟩
      · exact .inr ⟨verdict, rfl, rfl⟩

theorem issueFor_eq_ok {r : PackRequest} {verdict : Option Verdict} {p : Pack} :
    (s.issueFor r verdict).1 = .ok p ↔
      (s.world.issue s.service.issuer r.device (regionHint r) r.preferred verdict).1 = .ok p := by
  rw [issueFor]
  rcases s.world.issue s.service.issuer r.device (regionHint r) r.preferred verdict with ⟨e | q, w⟩
  · constructor
    · intro h
      exact nomatch h
    · intro h
      exact nomatch h
  · simp only [Except.ok.injEq]

theorem assess_ok {r : PackRequest} {v : Verdict} (h : (s.assess r).1 = .ok (some v)) :
    ∃ token, r.attestation = some token ∧ token ≠ "" ∧
      (s.service.evaluator.evaluate (input r token) s.world.clock).1.outcome = .ok v := by
  rcases s.assess_cases r with hnone | ⟨token, htoken, hne, hsome⟩
  · rw [hnone] at h
    exact nomatch Except.ok.inj h
  · rw [hsome, outcome_evaluate] at h
    refine ⟨token, htoken, hne, ?_⟩
    cases ho : (s.service.evaluator.evaluate (input r token) s.world.clock).1.outcome with
    | error e =>
        rw [ho] at h
        exact nomatch h
    | ok u =>
        rw [ho] at h
        exact congrArg Except.ok (Option.some.inj (Except.ok.inj h))

theorem issuePack_ok {r : PackRequest} {p : Pack} (h : (s.issuePack r).1 = .ok p) :
    ∃ verdict, (s.assess r).1 = .ok verdict ∧ ((s.assess r).2.issueFor r verdict).1 = .ok p := by
  rcases s.issuePack_cases r with ⟨code, hcode⟩ | ⟨e, -, herror⟩ | ⟨verdict, hv, hissue⟩
  · rw [hcode] at h
    exact nomatch h
  · rw [herror] at h
    exact nomatch h
  · rw [hissue] at h
    exact ⟨verdict, hv, h⟩

theorem issuePack_of_assess {r : PackRequest} {verdict : Option Verdict}
    (hd : ¬ isBlankText r.device) (hp : ¬ (Named.ofName? r.platform : Option Platform).isNone)
    (h : (s.assess r).1 = .ok verdict) : s.issuePack r = (s.assess r).2.issueFor r verdict := by
  rw [issuePack, if_neg hd, if_neg hp]
  rcases ha : s.assess r with ⟨e | v, t⟩
  · rw [ha] at h
    exact nomatch h
  · rw [ha] at h
    obtain rfl := Except.ok.inj h
    rfl

theorem attestClient_ok {r : AttestRequest} {f : Finding} (h : (s.attestClient r).1 = .ok f) :
    ∃ v, (s.evaluate ⟨r.platform, r.token, r.device, r.keyId⟩).1 = .ok v ∧ f = .ofVerdict v := by
  rw [attestClient] at h
  split at h
  · exact nomatch h
  · split at h
    · next v t hv => exact ⟨v, by rw [hv], (Except.ok.inj h).symm⟩
    · exact nomatch h

end RelayGate.Deployment
