import RelayGate.Proofs.Trust.Verdict
import RelayGate.Trust.AppAttest

namespace RelayGate

theorem AppAttestPolicy.appId_eq_some {p : AppAttestPolicy} {appId : String}
    (h : p.appId = some appId) : ∃ team bundle, p.team = some team ∧ team ≠ "" ∧
      p.bundle = some bundle ∧ bundle ≠ "" ∧ appId = team ++ "." ++ bundle := by
  rw [AppAttestPolicy.appId] at h
  split at h
  · next team bundle ht hb =>
      split at h
      · exact nomatch h
      · next hne =>
          simp only [Bool.or_eq_true, String.isEmpty_iff, not_or] at hne
          exact ⟨team, bundle, ht, hne.1, hb, hne.2, (Option.some.inj h).symm⟩
  · exact nomatch h

namespace AppAttestVerifier

variable {v : AppAttestVerifier}

theorem suppliedKeyId_eq_some {i : AttestInput} {keyId : String}
    (h : suppliedKeyId i = some keyId) : i.keyId = some keyId ∧ keyId ≠ "" ∧ i.token ≠ "" := by
  obtain ⟨hk, hne⟩ := Option.filter_eq_some_iff.1 h
  simpa [hk] using hne

theorem consult_ok {validator : Validator} {request : ValidationRequest} {i : AttestInput}
    {now : Clock} {verdict : Verdict} (h : v.consult validator request i now = .ok verdict) :
    (validator request).within v.policy.timeout = .ok () := by
  rw [consult] at h
  cases hw : (validator request).within v.policy.timeout with
  | error e =>
      rw [hw] at h
      exact nomatch h
  | ok u => rfl

theorem attest_cases (v : AppAttestVerifier) (i : AttestInput) (now : Clock) :
    suppliedKeyId i = none ∧ v.attest i now =
        .settled (i.invalid .unknown .missingTokenOrKeyId now.seconds) [] ∨
      ∃ keyId, suppliedKeyId i = some keyId ∧
        ((v.policy.appId = none ∨ v.validator = none) ∧ v.attest i now =
            .settled (i.unverified v.policy.allowBypass .missingAppAttestConfig now.seconds) [] ∨
          ∃ appId validator, v.policy.appId = some appId ∧ v.validator = some validator ∧
            ((∀ e, AttestEnvelope.parse i.token keyId ≠ .ok e) ∧ v.attest i now =
                .settled (i.invalid .unknown .invalidAttestationFormat now.seconds) [] ∨
              ∃ envelope, AttestEnvelope.parse i.token keyId = .ok envelope ∧ v.attest i now =
                ⟨v.consult validator ⟨appId, v.policy.production, envelope⟩ i now,
                  [.validate ⟨appId, v.policy.production, envelope⟩]⟩)) := by
  cases hkey : suppliedKeyId i with
  | none => exact .inl ⟨rfl, by simp only [attest, hkey]⟩
  | some keyId =>
      refine .inr ⟨keyId, rfl, ?_⟩
      cases happ : v.policy.appId with
      | none => exact .inl ⟨.inl rfl, by simp only [attest, hkey, happ]⟩
      | some appId =>
          cases hvalidator : v.validator with
          | none => exact .inl ⟨.inr rfl, by simp only [attest, hkey, happ, hvalidator]⟩
          | some validator =>
              refine .inr ⟨appId, validator, rfl, rfl, ?_⟩
              cases hparse : AttestEnvelope.parse i.token keyId with
              | error e =>
                  refine .inl ⟨?_, by simp only [attest, hkey, happ, hvalidator, hparse]⟩
                  exact fun envelope h => nomatch h
              | ok envelope =>
                  exact .inr ⟨envelope, rfl, by simp only [attest, hkey, happ, hvalidator, hparse]⟩

theorem attest_trusted {i : AttestInput} {now : Clock} {verdict : Verdict}
    (h : (v.attest i now).outcome = .ok verdict) (ht : needsDecoys (some verdict) = false) :
    ∃ keyId appId validator envelope, i.keyId = some keyId ∧ keyId ≠ "" ∧
      v.policy.appId = some appId ∧ v.validator = some validator ∧
      AttestEnvelope.parse i.token keyId = .ok envelope ∧
      (validator ⟨appId, v.policy.production, envelope⟩).delay.millis ≤ v.policy.timeout.millis ∧
      (validator ⟨appId, v.policy.production, envelope⟩).answer = .ok () := by
  have hinvalid (reason : Reason) : ¬ i.invalid .unknown reason now.seconds = verdict := by
    rintro rfl
    exact nomatch ht
  rcases v.attest_cases i now with ⟨-, ha⟩ | ⟨keyId, hk, ⟨-, ha⟩ |
    ⟨appId, validator, happ, hvalidator, ⟨-, ha⟩ | ⟨envelope, he, ha⟩⟩⟩
  · rw [ha] at h
    exact absurd (Except.ok.inj h) (hinvalid _)
  · rw [ha] at h
    obtain rfl := Except.ok.inj h
    rw [AttestInput.needsDecoys_unverified] at ht
    exact nomatch ht
  · rw [ha] at h
    exact absurd (Except.ok.inj h) (hinvalid _)
  · rw [ha] at h
    obtain ⟨hkey, hne, -⟩ := suppliedKeyId_eq_some hk
    obtain ⟨hdelay, hanswer⟩ := Reply.within_ok (consult_ok h)
    exact ⟨keyId, appId, validator, envelope, hkey, hne, happ, hvalidator, he, hdelay, hanswer⟩

end AppAttestVerifier

end RelayGate
