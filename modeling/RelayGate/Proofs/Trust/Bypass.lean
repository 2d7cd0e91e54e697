import RelayGate.Proofs.Trust.Evaluator

namespace RelayGate

theorem AttestInput.allowBypass_of_unverified {i : AttestInput} {allowBypass : Bool}
    {reason : Reason} {time : UInt64}
    (h : (i.unverified allowBypass reason time).tier = .bypass) : allowBypass = true := by
  cases allowBypass with
  | true => rfl
  | false => exact nomatch h

theorem PlayPayload.labelTier_ne_bypass (label : String) : labelTier label ≠ .bypass := by
  unfold labelTier
  split <;> exact fun h => nomatch h

theorem PlayPayload.tier_ne_bypass (p : PlayPayload) : p.tier ≠ .bypass := by
  rcases p.tier_cases with hu | ⟨-, label, -, -, hl⟩
  · rw [hu]
    exact fun h => nomatch h
  · rw [← hl]
    exact labelTier_ne_bypass label

theorem PlayPolicy.tier_judge (p : PlayPolicy) (payload : PlayPayload) (package : String)
    (i : AttestInput) (now : Clock) : (p.judge payload package i now).tier = payload.tier := by
  rw [judge]
  split <;> rfl

variable {i : AttestInput} {now : Clock} {verdict : Verdict}

theorem PlayVerifier.attest_bypass {v : PlayVerifier}
    (h : (v.attest i now).1.outcome = .ok verdict) (hb : verdict.tier = .bypass) :
    v.policy.allowBypass = true := by
  have hunconfigured (h : v.unconfigured i now = verdict) : v.policy.allowBypass = true := by
    rw [← h, unconfigured] at hb
    exact AttestInput.allowBypass_of_unverified hb
  rcases v.attest_cases i now with ha | ⟨package, -, -, ⟨backend, calls, -, ha⟩ | ⟨calls, ha⟩⟩
  · rw [ha] at h
    exact hunconfigured (Except.ok.inj h)
  · rw [ha] at h
    obtain ⟨payload, -, rfl⟩ := consult_ok h
    rw [PlayPolicy.tier_judge] at hb
    exact absurd hb payload.tier_ne_bypass
  · rw [ha] at h
    exact hunconfigured (Except.ok.inj h)

theorem AppAttestVerifier.attest_bypass {v : AppAttestVerifier}
    (h : (v.attest i now).outcome = .ok verdict) (hb : verdict.tier = .bypass) :
    v.policy.allowBypass = true := by
  have hinvalid (reason : Reason) : ¬ i.invalid .unknown reason now.seconds = verdict := by
    rintro rfl
    exact Tier.noConfusion hb
  rcases v.attest_cases i now with ⟨-, ha⟩ | ⟨keyId, -, ⟨-, ha⟩ |
    ⟨appId, validator, -, -, ⟨-, ha⟩ | ⟨envelope, -, ha⟩⟩⟩
  · rw [ha] at h
    exact absurd (Except.ok.inj h) (hinvalid _)
  · rw [ha] at h
    obtain rfl := Except.ok.inj h
    exact AttestInput.allowBypass_of_unverified hb
  · rw [ha] at h
    exact absurd (Except.ok.inj h) (hinvalid _)
  · rw [ha] at h
    dsimp only at h
    rw [consult, consult_ok h] at h
    obtain rfl := Except.ok.inj h
    exact Tier.noConfusion hb

theorem Evaluator.evaluate_bypass {pv : PlayVerifier} {av : AppAttestVerifier}
    (h : (evaluate ⟨[.play pv, .appAttest av]⟩ i now).1.outcome = .ok verdict)
    (hb : verdict.tier = .bypass) :
    pv.policy.allowBypass = true ∨ av.policy.allowBypass = true := by
  by_cases ha : i.platform = "android"
  · rw [evaluate_android pv av i now ha] at h
    exact .inl (pv.attest_bypass h hb)
  · by_cases hi : i.platform = "ios"
    · rw [evaluate_ios pv av i now hi] at h
      exact .inr (av.attest_bypass h hb)
    · rw [evaluate_other pv av i now ha hi] at h
      obtain rfl := Except.ok.inj h
      exact nomatch hb

end RelayGate
