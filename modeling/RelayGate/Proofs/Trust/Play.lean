import RelayGate.Proofs.Trust.Verdict
import RelayGate.Trust.Play

namespace RelayGate

namespace PlayPayload

theorem labelTier_eq_strong {label : String} (h : labelTier label = .strong) :
    label = "MEETS_STRONG_INTEGRITY" := by
  unfold labelTier at h
  split at h
  · rfl
  all_goals exact nomatch h

theorem tier_cases (p : PlayPayload) : p.tier = .unknown ∨
    ∃ device label, p.device = some device ∧ label ∈ device.labels ∧ labelTier label = p.tier := by
  cases hd : p.device with
  | none =>
      left
      rw [tier, hd]
  | some device =>
      have ht : p.tier = (device.labels.map labelTier).foldl .max .unknown := by rw [tier, hd]
      rw [ht]
      rcases Tier.foldl_max_mem (device.labels.map labelTier) .unknown with hu | hmem
      · exact .inl hu
      · obtain ⟨label, hlabel, hl⟩ := List.mem_map.1 hmem
        exact .inr ⟨device, label, rfl, hlabel, hl⟩

theorem tier_eq_strong {p : PlayPayload} (h : p.tier = .strong) :
    ∃ device, p.device = some device ∧ "MEETS_STRONG_INTEGRITY" ∈ device.labels := by
  rcases p.tier_cases with hu | ⟨device, label, hd, hlabel, hl⟩
  · rw [h] at hu
    exact nomatch hu
  · rw [h] at hl
    rw [labelTier_eq_strong hl] at hlabel
    exact ⟨device, hd, hlabel⟩

end PlayPayload

namespace PlayPolicy

/-- The payload meets every condition of the policy and carries the strongest label. -/
structure Vouches (p : PlayPolicy) (payload : PlayPayload) (package : String) (now : Clock) :
    Prop where
  request : ∃ request time, payload.request = some request ∧ request.package = some package ∧
    request.time = some time ∧ now.millis.toNat ≤ time.toNat + p.maxAge.millis ∧
    time.toNat ≤ now.millis.toNat + p.maxAge.millis
  recognized : payload.recognition = some "PLAY_RECOGNIZED"
  licensed : p.requireLicensed = true → payload.licensing = some "LICENSED"
  strong : ∃ device, payload.device = some device ∧ "MEETS_STRONG_INTEGRITY" ∈ device.labels

variable {p : PlayPolicy} {payload : PlayPayload} {package : String} {now : Clock}

theorem toNat_age (now time : UInt64) :
    (age now time).toNat = ((now.toNat : Int) - time.toNat).natAbs := by
  rw [age]
  split
  · next hlt =>
      have hle := UInt64.lt_iff_toNat_lt.1 hlt
      rw [UInt64.toNat_sub_of_le _ _ (UInt64.le_iff_toNat_le.2 (Nat.le_of_lt hle))]
      omega
  · next hlt =>
      have hle := Nat.not_lt.1 (mt UInt64.lt_iff_toNat_lt.2 hlt)
      rw [UInt64.toNat_sub_of_le _ _ (UInt64.le_iff_toNat_le.2 hle)]
      omega

/-- No time is as far away as the end of 64 bits, so that it makes no difference that a longer span
stops there. -/
theorem le_ageLimit_iff {distance : UInt64} :
    distance ≤ p.ageLimit ↔ distance.toNat ≤ p.maxAge.millis := by
  have hdistance := distance.toNat_lt
  have hlimit : min p.maxAge.millis (2 ^ 64 - 1) < UInt64.size :=
    Nat.lt_of_le_of_lt (Nat.min_le_right _ _) (by decide)
  rw [UInt64.le_iff_toNat_le, ageLimit, UInt64.toNat_ofNat_of_lt' hlimit]
  omega

theorem isFresh_some_iff {time : UInt64} : p.isFresh now (some time) = true ↔
    ((now.millis.toNat : Int) - time.toNat).natAbs ≤ p.maxAge.millis := by
  rw [isFresh, decide_eq_true_iff, le_ageLimit_iff, toNat_age]

theorem isFresh_iff {time : Option UInt64} : p.isFresh now time = true ↔
    ∃ t, time = some t ∧ now.millis.toNat ≤ t.toNat + p.maxAge.millis ∧
      t.toNat ≤ now.millis.toNat + p.maxAge.millis := by
  cases time with
  | none => simp [isFresh]
  | some t =>
      rw [isFresh_some_iff]
      constructor
      · intro h
        exact ⟨t, rfl, by omega, by omega⟩
      · rintro ⟨u, hu, h₁, h₂⟩
        obtain rfl := Option.some.inj hu
        omega

theorem objection_eq_none_iff : p.objection payload package now = none ↔
    ∃ request, payload.request = some request ∧ request.package = some package ∧
      p.isFresh now request.time = true ∧ payload.recognition = some "PLAY_RECOGNIZED" ∧
      (p.requireLicensed = true → payload.licensing = some "LICENSED") ∧
      p.acceptsTier payload.tier = true := by
  have hnot : (p.requireLicensed = true → payload.licensing = some "LICENSED") ↔
      ¬ (p.requireLicensed = true ∧ payload.licensing ≠ some "LICENSED") := by
    rw [not_and, Decidable.not_not]
  rw [hnot]
  cases hr : payload.request with
  | none => simp [objection, hr]
  | some request =>
      by_cases hp : request.package = some package
      · by_cases hf : p.isFresh now request.time = true
        · by_cases hrec : payload.recognition = some "PLAY_RECOGNIZED"
          · by_cases hl : p.requireLicensed = true ∧ payload.licensing ≠ some "LICENSED"
            · simp [objection, hr, hp, hf, hrec, hl]
            · simp only [objection, hr, hp, hf, hrec, if_neg hl]
              simp [hp, hf, hl]
          · simp [objection, hr, hp, hf, hrec]
        · simp [objection, hr, hp, hf]
      · simp [objection, hr, hp]

theorem vouches_of_objection (h : p.objection payload package now = none)
    (ht : payload.tier = .strong) : p.Vouches payload package now := by
  obtain ⟨request, hr, hp, hfresh, hrecognized, hlicensed, -⟩ := objection_eq_none_iff.1 h
  obtain ⟨time, htime, hage⟩ := isFresh_iff.1 hfresh
  exact {
    request := ⟨request, time, hr, hp, htime, hage⟩
    recognized := hrecognized
    licensed := hlicensed
    strong := PlayPayload.tier_eq_strong ht }

theorem vouches_of_judge {i : AttestInput}
    (h : needsDecoys (some (p.judge payload package i now)) = false) :
    p.Vouches payload package now := by
  obtain ⟨hvalid, htier⟩ := needsDecoys_eq_false.1 h
  cases ho : p.objection payload package now with
  | some reason =>
      rw [judge, ho] at hvalid
      exact nomatch hvalid
  | none =>
      rw [judge, ho] at htier
      exact vouches_of_objection ho htier

end PlayPolicy

namespace PlayVerifier

/-- The backend is connected already, or this is the attempt that connects it. -/
def Reaches (v : PlayVerifier) (backend : PlayBackend) : Prop :=
  v.connection = .connected backend ∨
    v.connection = .untried ∧
      ∃ connector, v.connector = some connector ∧ connector v.credentials = .ok backend

variable {v : PlayVerifier}

theorem establish_cases {connector : PlayConnector} (hc : v.connector = some connector) :
    (∃ backend calls, v.establish connector = (.connected backend, calls) ∧ v.Reaches backend) ∨
      ∃ calls, v.establish connector = (.failed, calls) := by
  cases hconn : v.connection with
  | untried =>
      cases hok : connector v.credentials with
      | ok backend =>
          refine .inl ⟨backend, [.connect v.credentials], ?_, .inr ⟨hconn, connector, hc, hok⟩⟩
          simp only [establish, hconn, hok]
      | error e =>
          refine .inr ⟨[.connect v.credentials], ?_⟩
          simp only [establish, hconn, hok]
  | failed =>
      refine .inr ⟨[], ?_⟩
      simp only [establish, hconn]
  | connected backend =>
      refine .inl ⟨backend, [], ?_, .inl hconn⟩
      simp only [establish, hconn]

theorem consult_ok {backend : PlayBackend} {package : String} {i : AttestInput} {now : Clock}
    {verdict : Verdict} (h : v.consult backend package i now = .ok verdict) :
    ∃ payload, (backend package i.token).within v.policy.timeout = .ok payload ∧
      v.policy.judge payload package i now = verdict := by
  rw [consult] at h
  cases hw : (backend package i.token).within v.policy.timeout with
  | error e =>
      rw [hw] at h
      exact nomatch h
  | ok payload =>
      rw [hw] at h
      exact ⟨payload, rfl, Except.ok.inj h⟩

theorem attest_cases (v : PlayVerifier) (i : AttestInput) (now : Clock) :
    v.attest i now = (.settled (v.unconfigured i now) [], v) ∨
      ∃ package, v.policy.package = some package ∧ v.connector.isSome = true ∧
        ((∃ backend calls, v.Reaches backend ∧
            v.attest i now = (⟨v.consult backend package i now, calls ++ [.decode package i.token]⟩,
              { v with connection := .connected backend })) ∨
          ∃ calls, v.attest i now =
            (.settled (v.unconfigured i now) calls, { v with connection := .failed })) := by
  cases hp : v.policy.package with
  | none => exact .inl (by simp only [attest, hp])
  | some package =>
      cases hc : v.connector with
      | none => exact .inl (by simp only [attest, hp, hc])
      | some connector =>
          refine .inr ⟨package, rfl, rfl, ?_⟩
          rcases establish_cases hc with ⟨backend, calls, he, hr⟩ | ⟨calls, he⟩
          · exact .inl ⟨backend, calls, hr, by simp only [attest, hp, hc, he]⟩
          · exact .inr ⟨calls, by simp only [attest, hp, hc, he]⟩

variable {package : String} {connector : PlayConnector} {backend : PlayBackend}

theorem attest_unconfigured (h : v.policy.package = none ∨ v.connector = none) (i : AttestInput)
    (now : Clock) : v.attest i now = (.settled (v.unconfigured i now) [], v) := by
  rcases h with hpackage | hconnector
  · rw [attest, hpackage]
  · rw [attest]
    split
    · next hsome => exact nomatch hconnector.symm.trans hsome
    · rfl

theorem attest_refused {e : AttestFailure} (hpackage : v.policy.package = some package)
    (hconnector : v.connector = some connector) (huntried : v.connection = .untried)
    (hrefused : connector v.credentials = .error e) (i : AttestInput) (now : Clock) :
    v.attest i now = (.settled (v.unconfigured i now) [.connect v.credentials],
      { v with connection := .failed }) := by
  simp only [attest, hpackage, hconnector, establish, huntried, hrefused]

theorem attest_admitted (hpackage : v.policy.package = some package)
    (hconnector : v.connector = some connector) (huntried : v.connection = .untried)
    (hadmitted : connector v.credentials = .ok backend) (i : AttestInput) (now : Clock) :
    v.attest i now = (⟨v.consult backend package i now,
        [.connect v.credentials, .decode package i.token]⟩,
      { v with connection := .connected backend }) := by
  simp only [attest, hpackage, hconnector, establish, huntried, hadmitted, List.singleton_append]

theorem attest_failed (hfailed : v.connection = .failed) (i : AttestInput) (now : Clock) :
    v.attest i now = (.settled (v.unconfigured i now) [], v) := by
  obtain ⟨policy, connector, credentials, connection⟩ := v
  obtain rfl : connection = .failed := hfailed
  rw [attest]
  split <;> rfl

theorem attest_connected (hpackage : v.policy.package = some package)
    (hconnector : v.connector = some connector) (hconnected : v.connection = .connected backend)
    (i : AttestInput) (now : Clock) :
    v.attest i now = (⟨v.consult backend package i now, [.decode package i.token]⟩, v) := by
  obtain ⟨policy, known, credentials, connection⟩ := v
  obtain rfl : known = some connector := hconnector
  obtain rfl : connection = .connected backend := hconnected
  obtain hpackage : policy.package = some package := hpackage
  simp only [attest, hpackage, establish, List.nil_append]

/-- What becomes of the connection in an attempt: it is tried once, by the first attempt of a verifier
that is configured. -/
inductive Settles (v : PlayVerifier) : PlayConnection → Prop
  | kept (h : v.policy.package = none ∨ v.connector = none ∨ v.connection ≠ .untried) :
      Settles v v.connection
  | refused {package : String} {connector : PlayConnector} {e : AttestFailure}
      (hpackage : v.policy.package = some package) (hconnector : v.connector = some connector)
      (huntried : v.connection = .untried) (hrefused : connector v.credentials = .error e) :
      Settles v .failed
  | admitted {package : String} {connector : PlayConnector} {backend : PlayBackend}
      (hpackage : v.policy.package = some package) (hconnector : v.connector = some connector)
      (huntried : v.connection = .untried) (hadmitted : connector v.credentials = .ok backend) :
      Settles v (.connected backend)

theorem attest_kept (h : v.policy.package = none ∨ v.connector = none ∨ v.connection ≠ .untried)
    (i : AttestInput) (now : Clock) : (v.attest i now).2 = v := by
  rcases h with hpackage | hconnector | htried
  · rw [attest_unconfigured (.inl hpackage)]
  · rw [attest_unconfigured (.inr hconnector)]
  · cases hconnection : v.connection with
    | untried => exact absurd hconnection htried
    | failed => rw [attest_failed hconnection]
    | connected backend =>
        cases hpackage : v.policy.package with
        | none => rw [attest_unconfigured (.inl hpackage)]
        | some package =>
            cases hconnector : v.connector with
            | none => rw [attest_unconfigured (.inr hconnector)]
            | some connector => rw [attest_connected hpackage hconnector hconnection]

theorem settles_attest (v : PlayVerifier) (i : AttestInput) (now : Clock) :
    ∃ c, v.Settles c ∧ (v.attest i now).2 = { v with connection := c } := by
  by_cases h : v.policy.package = none ∨ v.connector = none ∨ v.connection ≠ .untried
  · exact ⟨_, .kept h, attest_kept h i now⟩
  · simp only [not_or, Classical.not_not, ne_eq] at h
    obtain ⟨hpackage, hconnector, huntried⟩ := h
    obtain ⟨package, hpackage⟩ := Option.ne_none_iff_exists'.1 hpackage
    obtain ⟨connector, hconnector⟩ := Option.ne_none_iff_exists'.1 hconnector
    cases hconnect : connector v.credentials with
    | error e =>
        refine ⟨_, .refused hpackage hconnector huntried hconnect, ?_⟩
        rw [attest_refused hpackage hconnector huntried hconnect]
    | ok backend =>
        refine ⟨_, .admitted hpackage hconnector huntried hconnect, ?_⟩
        rw [attest_admitted hpackage hconnector huntried hconnect]

theorem attest_trusted {i : AttestInput} {now : Clock} {verdict : Verdict}
    (h : (v.attest i now).1.outcome = .ok verdict) (ht : needsDecoys (some verdict) = false) :
    ∃ package backend payload, v.policy.package = some package ∧ v.connector.isSome = true ∧
      v.Reaches backend ∧
      (backend package i.token).delay.millis ≤ v.policy.timeout.millis ∧
      (backend package i.token).answer = .ok payload ∧
      v.policy.Vouches payload package now := by
  have hunconfigured : ¬ v.unconfigured i now = verdict := by
    rintro rfl
    rw [unconfigured, AttestInput.needsDecoys_unverified] at ht
    exact nomatch ht
  rcases v.attest_cases i now with ha | ⟨package, hp, hc, ⟨backend, calls, hr, ha⟩ | ⟨calls, ha⟩⟩
  · rw [ha] at h
    exact absurd (Except.ok.inj h) hunconfigured
  · rw [ha] at h
    obtain ⟨payload, hw, rfl⟩ := consult_ok h
    obtain ⟨hdelay, hanswer⟩ := Reply.within_ok hw
    exact ⟨package, backend, payload, hp, hc, hr, hdelay, hanswer, PlayPolicy.vouches_of_judge ht⟩
  · rw [ha] at h
    exact absurd (Except.ok.inj h) hunconfigured

end PlayVerifier

end RelayGate
