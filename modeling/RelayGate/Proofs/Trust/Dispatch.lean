import RelayGate.Proofs.Except
import RelayGate.Proofs.Trust.Evaluator

namespace RelayGate

inductive Reply.Faulty {α : Type} (r : Reply α) (timeout : Duration) : AttestFailure → Prop
  | late (h : timeout.millis < r.delay.millis) : Faulty r timeout (.timeout timeout)
  | error {e : AttestFailure} (htime : r.delay.millis ≤ timeout.millis) (h : r.answer = .error e) :
      Faulty r timeout e

theorem Reply.within_eq_error_iff {α : Type} {r : Reply α} {timeout : Duration} {e : AttestFailure} :
    r.within timeout = .error e ↔ r.Faulty timeout e := by
  constructor
  · intro h
    by_cases hlate : timeout.millis < r.delay.millis
    · rw [within, if_pos hlate] at h
      obtain rfl := Except.error.inj h
      exact .late hlate
    · rw [within, if_neg hlate] at h
      exact .error (Nat.not_lt.1 hlate) h
  · rintro (hlate | ⟨htime, h⟩)
    · rw [within, if_pos hlate]
    · rw [within, if_neg (Nat.not_lt.2 htime), h]

structure Verdict.IsAbout (v : Verdict) (i : AttestInput) (now : Clock) : Prop where
  platform : v.platform = i.platform
  device : v.device = i.device
  time : v.time = now.seconds

/-- The service behind the verifier was there to be asked, and did not answer as it should. -/
inductive Verifier.LetDown (i : AttestInput) : Verifier → AttestFailure → Prop
  | play {v : PlayVerifier} {package : String} {backend : PlayBackend} {e : AttestFailure}
      (hpackage : v.policy.package = some package) (hconnector : v.connector.isSome = true)
      (hreach : v.Reaches backend) (h : (backend package i.token).Faulty v.policy.timeout e) :
      LetDown i (.play v) e
  | appAttest {v : AppAttestVerifier} {keyId appId : String} {validator : Validator}
      {envelope : AttestEnvelope} {e : AttestFailure}
      (hkey : AppAttestVerifier.suppliedKeyId i = some keyId) (happ : v.policy.appId = some appId)
      (hvalidator : v.validator = some validator)
      (henvelope : AttestEnvelope.parse i.token keyId = .ok envelope)
      (h : (validator ⟨appId, v.policy.production, envelope⟩).Faulty v.policy.timeout e) :
      LetDown i (.appAttest v) e

variable {i : AttestInput} {now : Clock}

theorem AttestInput.isAbout_unverified (i : AttestInput) (allowBypass : Bool) (reason : Reason)
    (now : Clock) : (i.unverified allowBypass reason now.seconds).IsAbout i now := by
  cases allowBypass <;> exact ⟨rfl, rfl, rfl⟩

theorem PlayPolicy.isAbout_judge (p : PlayPolicy) (payload : PlayPayload) (package : String)
    (i : AttestInput) (now : Clock) : (p.judge payload package i now).IsAbout i now := by
  rw [judge]
  split <;> exact ⟨rfl, rfl, rfl⟩

namespace PlayVerifier

variable {v : PlayVerifier}

theorem isAbout_attest {verdict : Verdict} (h : (v.attest i now).1.outcome = .ok verdict) :
    verdict.IsAbout i now := by
  have hunconfigured := i.isAbout_unverified v.policy.allowBypass .missingAttestationConfig now
  rcases v.attest_cases i now with ha | ⟨package, -, -, ⟨backend, calls, -, ha⟩ | ⟨calls, ha⟩⟩
  · rw [ha] at h
    obtain rfl := Except.ok.inj h
    exact hunconfigured
  · rw [ha] at h
    obtain ⟨payload, -, rfl⟩ := consult_ok h
    exact v.policy.isAbout_judge payload package i now
  · rw [ha] at h
    obtain rfl := Except.ok.inj h
    exact hunconfigured

theorem consult_eq_error_iff {backend : PlayBackend} {package : String} {e : AttestFailure} :
    v.consult backend package i now = .error e ↔
      (backend package i.token).Faulty v.policy.timeout e := by
  rw [← Reply.within_eq_error_iff]
  exact Except.bind_pure_eq_error_iff

theorem outcome_of_reaches {package : String} {backend : PlayBackend}
    (hpackage : v.policy.package = some package) (hconnector : v.connector.isSome = true)
    (hreach : v.Reaches backend) :
    (v.attest i now).1.outcome = v.consult backend package i now := by
  obtain ⟨connector, hc⟩ := Option.isSome_iff_exists.1 hconnector
  rcases hreach with hconnected | ⟨huntried, other, ho, hok⟩
  · simp only [attest, hpackage, hc, establish, hconnected]
  · simp only [attest, hpackage, ho, establish, huntried, hok]

theorem outcome_eq_error_iff {e : AttestFailure} :
    (v.attest i now).1.outcome = .error e ↔ Verifier.LetDown i (.play v) e := by
  constructor
  · intro h
    rcases v.attest_cases i now with
      ha | ⟨package, hpackage, hconnector, ⟨backend, calls, hreach, ha⟩ | ⟨calls, ha⟩⟩
    · rw [ha] at h
      exact nomatch h
    · rw [ha] at h
      exact .play hpackage hconnector hreach (consult_eq_error_iff.1 h)
    · rw [ha] at h
      exact nomatch h
  · rintro (@⟨_, package, backend, _, hpackage, hconnector, hreach, h⟩)
    rw [outcome_of_reaches hpackage hconnector hreach]
    exact consult_eq_error_iff.2 h

end PlayVerifier

namespace AppAttestVerifier

variable {v : AppAttestVerifier}

theorem isAbout_attest {verdict : Verdict} (h : (v.attest i now).outcome = .ok verdict) :
    verdict.IsAbout i now := by
  rcases v.attest_cases i now with ⟨-, ha⟩ | ⟨keyId, -, ⟨-, ha⟩ |
    ⟨appId, validator, -, -, ⟨-, ha⟩ | ⟨envelope, -, ha⟩⟩⟩
  · rw [ha] at h
    obtain rfl := Except.ok.inj h
    exact ⟨rfl, rfl, rfl⟩
  · rw [ha] at h
    obtain rfl := Except.ok.inj h
    exact i.isAbout_unverified v.policy.allowBypass .missingAppAttestConfig now
  · rw [ha] at h
    obtain rfl := Except.ok.inj h
    exact ⟨rfl, rfl, rfl⟩
  · rw [ha] at h
    dsimp only at h
    rw [consult, consult_ok h] at h
    obtain rfl := Except.ok.inj h
    exact ⟨rfl, rfl, rfl⟩

theorem consult_eq_error_iff {validator : Validator} {request : ValidationRequest}
    {e : AttestFailure} :
    v.consult validator request i now = .error e ↔
      (validator request).Faulty v.policy.timeout e := by
  rw [← Reply.within_eq_error_iff]
  exact Except.bind_pure_eq_error_iff

theorem outcome_eq_error_iff {e : AttestFailure} :
    (v.attest i now).outcome = .error e ↔ Verifier.LetDown i (.appAttest v) e := by
  constructor
  · intro h
    rcases v.attest_cases i now with ⟨-, ha⟩ | ⟨keyId, hkey, ⟨-, ha⟩ |
      ⟨appId, validator, happ, hvalidator, ⟨-, ha⟩ | ⟨envelope, henvelope, ha⟩⟩⟩
    · rw [ha] at h
      cases h
    · rw [ha] at h
      cases h
    · rw [ha] at h
      cases h
    · rw [ha] at h
      exact .appAttest hkey happ hvalidator henvelope (consult_eq_error_iff.1 h)
  · rintro (_ | ⟨hkey, happ, hvalidator, henvelope, h⟩)
    simp only [attest, hkey, happ, hvalidator, henvelope]
    exact consult_eq_error_iff.2 h

end AppAttestVerifier

theorem Verifier.isAbout_attest {v : Verifier} {verdict : Verdict}
    (h : (v.attest i now).1.outcome = .ok verdict) : verdict.IsAbout i now := by
  cases v with
  | play v => exact PlayVerifier.isAbout_attest h
  | appAttest v => exact AppAttestVerifier.isAbout_attest h

theorem Verifier.outcome_eq_error_iff {v : Verifier} {e : AttestFailure} :
    (v.attest i now).1.outcome = .error e ↔ v.LetDown i e := by
  cases v with
  | play v => exact PlayVerifier.outcome_eq_error_iff
  | appAttest v => exact AppAttestVerifier.outcome_eq_error_iff

namespace Evaluator

def verifierFor (e : Evaluator) (platform : String) : Option Verifier :=
  (Named.ofName? platform : Option Platform).bind fun p => e.verifiers.find? (·.platform = p)

theorem attempt_attestFirst (p : Platform) (i : AttestInput) (now : Clock) (vs : List Verifier) :
    (attestFirst p i now vs).map Prod.fst =
      (vs.find? (·.platform = p)).map fun v => (v.attest i now).1 := by
  induction vs with
  | nil => rfl
  | cons v vs ih =>
      by_cases hv : v.platform = p
      · have hfind : (v :: vs).find? (·.platform = p) = some v :=
          List.find?_cons_of_pos (decide_eq_true hv)
        rw [attestFirst, if_pos hv, hfind]
        rfl
      · have hfind : (v :: vs).find? (·.platform = p) = vs.find? (·.platform = p) :=
          List.find?_cons_of_neg (by simpa using hv)
        rw [attestFirst, if_neg hv, hfind, ← ih, Option.map_map]
        rfl

theorem attempt_evaluate (e : Evaluator) (i : AttestInput) (now : Clock) :
    (e.evaluate i now).1 =
      match e.verifierFor i.platform with
      | some v => (v.attest i now).1
      | none => .settled (i.invalid .unknown .unsupportedPlatform now.seconds) [] := by
  rw [evaluate, verifierFor]
  cases (Named.ofName? i.platform : Option Platform) with
  | none => rfl
  | some p =>
      have hfirst := attempt_attestFirst p i now e.verifiers
      rw [Option.bind_some, Option.bind_some]
      cases ha : attestFirst p i now e.verifiers with
      | none =>
          rw [ha, Option.map_none, eq_comm, Option.map_eq_none_iff] at hfirst
          rw [hfirst]
      | some attempt =>
          rw [ha, Option.map_some, eq_comm, Option.map_eq_some_iff] at hfirst
          obtain ⟨v, hv, hattempt⟩ := hfirst
          rw [hv]
          exact hattempt.symm

variable {e : Evaluator}

theorem isAbout_evaluate {verdict : Verdict} (h : (e.evaluate i now).1.outcome = .ok verdict) :
    verdict.IsAbout i now := by
  rw [attempt_evaluate] at h
  split at h
  · exact Verifier.isAbout_attest h
  · obtain rfl := Except.ok.inj h
    exact ⟨rfl, rfl, rfl⟩

theorem outcome_eq_error_iff {failure : AttestFailure} :
    (e.evaluate i now).1.outcome = .error failure ↔
      ∃ v, e.verifierFor i.platform = some v ∧ v.LetDown i failure := by
  rw [attempt_evaluate]
  cases hv : e.verifierFor i.platform with
  | none =>
      constructor
      · intro h
        exact nomatch h
      · rintro ⟨v, hnone, -⟩
        exact nomatch hnone
  | some v =>
      rw [Verifier.outcome_eq_error_iff]
      constructor
      · intro h
        exact ⟨v, rfl, h⟩
      · rintro ⟨w, hw, h⟩
        rwa [Option.some.inj hw]

end Evaluator

end RelayGate
