import RelayGate.Proofs.Trust.Dispatch
import RelayGate.Proofs.Trust.Envelope

namespace RelayGate

def AppAttestPolicy.Names (p : AppAttestPolicy) (appId : String) : Prop :=
  ∃ team bundle, p.team = some team ∧ team ≠ "" ∧ p.bundle = some bundle ∧ bundle ≠ "" ∧
    appId = team ++ "." ++ bundle

theorem AppAttestPolicy.appId_eq_some_iff {p : AppAttestPolicy} {appId : String} :
    p.appId = some appId ↔ p.Names appId := by
  constructor
  · exact appId_eq_some
  · rintro ⟨team, bundle, ht, hteam, hb, hbundle, rfl⟩
    simp [AppAttestPolicy.appId, ht, hb, hteam, hbundle]

structure Reply.Confirms (r : Reply Unit) (timeout : Duration) : Prop where
  inTime : r.delay.millis ≤ timeout.millis
  answer : r.answer = .ok ()

theorem Reply.within_eq_ok_iff {r : Reply Unit} {timeout : Duration} :
    r.within timeout = .ok () ↔ r.Confirms timeout := by
  constructor
  · intro h
    obtain ⟨hdelay, hanswer⟩ := within_ok h
    exact ⟨hdelay, hanswer⟩
  · rintro ⟨hdelay, hanswer⟩
    rw [within, if_neg (Nat.not_lt.2 hdelay), hanswer]

theorem Reply.confirms_or_faulty (r : Reply Unit) (timeout : Duration) :
    r.Confirms timeout ∨ ∃ failure, r.Faulty timeout failure := by
  cases h : r.within timeout with
  | ok u => exact .inl (within_eq_ok_iff.1 h)
  | error failure => exact .inr ⟨failure, within_eq_error_iff.1 h⟩

namespace AppAttestVerifier

def Supplies (i : AttestInput) (keyId : String) : Prop :=
  i.keyId = some keyId ∧ keyId ≠ "" ∧ i.token ≠ ""

def IsConfigured (v : AppAttestVerifier) : Prop :=
  ∃ appId validator, v.policy.Names appId ∧ v.validator = some validator

/-- The request that a client leads to: its envelope, for the app and the environment that are
configured. -/
structure Asks (v : AppAttestVerifier) (i : AttestInput) (validator : Validator)
    (request : ValidationRequest) : Prop where
  supplied : Supplies i request.envelope.keyId
  app : v.policy.Names request.appId
  validator : v.validator = some validator
  written : request.envelope.IsWrittenIn i.token
  environment : request.production = v.policy.production

/-- What an attempt comes to, with the calls that it takes. -/
inductive ComesTo (v : AppAttestVerifier) (i : AttestInput) (now : Clock) : Attempt → Prop
  | unsupplied (hkey : ∀ keyId, ¬ Supplies i keyId) :
      ComesTo v i now ⟨.ok (i.invalid .unknown .missingTokenOrKeyId now.seconds), []⟩
  | bypassed {keyId : String} (hkey : Supplies i keyId) (hconfigured : ¬ v.IsConfigured)
      (hbypass : v.policy.allowBypass = true) :
      ComesTo v i now ⟨.ok (i.valid .bypass now.seconds), []⟩
  | unconfigured {keyId : String} (hkey : Supplies i keyId) (hconfigured : ¬ v.IsConfigured)
      (hbypass : v.policy.allowBypass = false) :
      ComesTo v i now ⟨.ok (i.invalid .unknown .missingAppAttestConfig now.seconds), []⟩
  | malformed {keyId : String} (hkey : Supplies i keyId) (hconfigured : v.IsConfigured)
      (hwritten : ∀ e : AttestEnvelope, e.keyId = keyId → ¬ e.IsWrittenIn i.token) :
      ComesTo v i now ⟨.ok (i.invalid .unknown .invalidAttestationFormat now.seconds), []⟩
  | confirmed {validator : Validator} {request : ValidationRequest}
      (hasks : v.Asks i validator request)
      (hconfirms : (validator request).Confirms v.policy.timeout) :
      ComesTo v i now ⟨.ok (i.valid .strong now.seconds), [.validate request]⟩
  | failed {validator : Validator} {request : ValidationRequest} {failure : AttestFailure}
      (hasks : v.Asks i validator request)
      (hfaulty : (validator request).Faulty v.policy.timeout failure) :
      ComesTo v i now ⟨.error failure, [.validate request]⟩

variable {v : AppAttestVerifier} {i : AttestInput} {now : Clock} {keyId : String}
  {validator : Validator} {request : ValidationRequest}

theorem suppliedKeyId_eq_some_iff : suppliedKeyId i = some keyId ↔ Supplies i keyId := by
  constructor
  · exact suppliedKeyId_eq_some
  · rintro ⟨hk, hkey, htoken⟩
    simp [suppliedKeyId, hk, hkey, htoken]

theorem attest_of_unsupplied (hkey : ∀ keyId, ¬ Supplies i keyId) : v.attest i now =
    ⟨.ok (i.invalid .unknown .missingTokenOrKeyId now.seconds), []⟩ := by
  have hnone : suppliedKeyId i = none := by
    rw [Option.eq_none_iff_forall_ne_some]
    exact fun keyId h => hkey keyId (suppliedKeyId_eq_some_iff.1 h)
  rw [attest, hnone]
  rfl

theorem attest_of_not_isConfigured (hkey : Supplies i keyId) (hconfigured : ¬ v.IsConfigured) :
    v.attest i now =
      ⟨.ok (i.unverified v.policy.allowBypass .missingAppAttestConfig now.seconds), []⟩ := by
  rw [attest, suppliedKeyId_eq_some_iff.2 hkey]
  dsimp only
  split
  · next appId validator happ hvalidator =>
      exact absurd ⟨appId, validator, AppAttestPolicy.appId_eq_some_iff.1 happ, hvalidator⟩ hconfigured
  · rfl

theorem attest_of_malformed (hkey : Supplies i keyId) (hconfigured : v.IsConfigured)
    (hwritten : ∀ e : AttestEnvelope, e.keyId = keyId → ¬ e.IsWrittenIn i.token) : v.attest i now =
      ⟨.ok (i.invalid .unknown .invalidAttestationFormat now.seconds), []⟩ := by
  obtain ⟨appId, validator, happ, hvalidator⟩ := hconfigured
  simp only [attest, suppliedKeyId_eq_some_iff.2 hkey, AppAttestPolicy.appId_eq_some_iff.2 happ,
    hvalidator]
  split
  · rfl
  · next e he =>
      obtain ⟨hid, hin⟩ := AttestEnvelope.parse_eq_ok_iff.1 he
      exact absurd hin (hwritten e hid)

theorem attest_of_asks (h : v.Asks i validator request) :
    v.attest i now = ⟨v.consult validator request i now, [.validate request]⟩ := by
  obtain ⟨appId, production, envelope⟩ := request
  obtain ⟨hkey, happ, hvalidator, hwritten, rfl⟩ := h
  simp only [attest, suppliedKeyId_eq_some_iff.2 hkey, AppAttestPolicy.appId_eq_some_iff.2 happ,
    hvalidator, AttestEnvelope.parse_eq_ok_iff.2 ⟨rfl, hwritten⟩]

theorem consult_of_confirms (h : (validator request).Confirms v.policy.timeout) :
    v.consult validator request i now = .ok (i.valid .strong now.seconds) := by
  rw [consult, Reply.within_eq_ok_iff.2 h]
  rfl

theorem comesTo_attest (v : AppAttestVerifier) (i : AttestInput) (now : Clock) :
    v.ComesTo i now (v.attest i now) := by
  rcases v.attest_cases i now with ⟨hnone, ha⟩ | ⟨keyId, hsome, ⟨hmissing, ha⟩ |
    ⟨appId, validator, happ, hvalidator, ⟨hparse, ha⟩ | ⟨envelope, hparse, ha⟩⟩⟩
  · rw [ha]
    refine .unsupplied ?_
    intro keyId hkey
    rw [suppliedKeyId_eq_some_iff.2 hkey] at hnone
    exact nomatch hnone
  · have hkey := suppliedKeyId_eq_some_iff.1 hsome
    have hconfigured : ¬ v.IsConfigured := by
      rintro ⟨appId, validator, happ, hvalidator⟩
      rw [AppAttestPolicy.appId_eq_some_iff.2 happ, hvalidator] at hmissing
      rcases hmissing with h | h <;> exact nomatch h
    rw [ha]
    cases hbypass : v.policy.allowBypass with
    | true => exact .bypassed hkey hconfigured hbypass
    | false => exact .unconfigured hkey hconfigured hbypass
  · have hnames := AppAttestPolicy.appId_eq_some_iff.1 happ
    rw [ha]
    refine .malformed (suppliedKeyId_eq_some_iff.1 hsome) ⟨appId, validator, hnames, hvalidator⟩ ?_
    intro e hid hin
    exact hparse e (AttestEnvelope.parse_eq_ok_iff.2 ⟨hid, hin⟩)
  · obtain ⟨rfl, hin⟩ := AttestEnvelope.parse_eq_ok_iff.1 hparse
    have hasks : v.Asks i validator ⟨appId, v.policy.production, envelope⟩ :=
      ⟨suppliedKeyId_eq_some_iff.1 hsome, AppAttestPolicy.appId_eq_some_iff.1 happ, hvalidator, hin,
        rfl⟩
    rw [ha]
    rcases Reply.confirms_or_faulty (validator ⟨appId, v.policy.production, envelope⟩)
      v.policy.timeout with hconfirms | ⟨failure, hfaulty⟩
    · rw [consult_of_confirms hconfirms]
      exact .confirmed hasks hconfirms
    · rw [consult_eq_error_iff.2 hfaulty]
      exact .failed hasks hfaulty

theorem attest_eq_iff {a : Attempt} : v.attest i now = a ↔ v.ComesTo i now a := by
  constructor
  · rintro rfl
    exact v.comesTo_attest i now
  · intro h
    cases h with
    | unsupplied hkey => exact attest_of_unsupplied hkey
    | bypassed hkey hconfigured hbypass =>
        rw [attest_of_not_isConfigured hkey hconfigured, hbypass]
        rfl
    | unconfigured hkey hconfigured hbypass =>
        rw [attest_of_not_isConfigured hkey hconfigured, hbypass]
        rfl
    | malformed hkey hconfigured hwritten => exact attest_of_malformed hkey hconfigured hwritten
    | confirmed hasks hconfirms => rw [attest_of_asks hasks, consult_of_confirms hconfirms]
    | failed hasks hfaulty => rw [attest_of_asks hasks, consult_eq_error_iff.2 hfaulty]

theorem ComesTo.tier_of_isValid {a : Attempt} {verdict : Verdict} (h : v.ComesTo i now a)
    (ho : a.outcome = .ok verdict) (hvalid : verdict.isValid = true) :
    verdict.tier = .strong ∧ (∃ validator request, v.Asks i validator request ∧
        (validator request).Confirms v.policy.timeout) ∨
      verdict.tier = .bypass ∧ (∃ keyId, Supplies i keyId) ∧ ¬ v.IsConfigured ∧
        v.policy.allowBypass = true := by
  cases h with
  | unsupplied | unconfigured | malformed =>
      obtain rfl := Except.ok.inj ho
      exact nomatch hvalid
  | bypassed hkey hconfigured hbypass =>
      obtain rfl := Except.ok.inj ho
      exact .inr ⟨rfl, ⟨_, hkey⟩, hconfigured, hbypass⟩
  | confirmed hasks hconfirms =>
      obtain rfl := Except.ok.inj ho
      exact .inl ⟨rfl, _, _, hasks, hconfirms⟩
  | failed => exact nomatch ho

theorem ComesTo.asks_of_mem_calls {a : Attempt} {call : BackendCall} (h : v.ComesTo i now a)
    (hcall : call ∈ a.calls) :
    ∃ validator request, v.Asks i validator request ∧ call = .validate request := by
  cases h with
  | unsupplied | bypassed | unconfigured | malformed => exact absurd hcall List.not_mem_nil
  | confirmed hasks | failed hasks => exact ⟨_, _, hasks, List.mem_singleton.1 hcall⟩

theorem ComesTo.length_calls_le {a : Attempt} (h : v.ComesTo i now a) : a.calls.length ≤ 1 := by
  cases h with
  | unsupplied | bypassed | unconfigured | malformed => exact Nat.zero_le 1
  | confirmed | failed => exact Nat.le_refl 1

/-- Whatever the policy, the validator and the client are: the attempt comes to exactly one of the
cases; it ends with a valid strong verdict if and only if the client leads to a request that is
confirmed in time, with a valid bypass if and only if the client has sent what is needed to a verifier
that is not configured and allows it, and with no other valid verdict; and the validator is called
once with the request that the client leads to, and is not called if there is none. -/
theorem attest_exact (v : AppAttestVerifier) (i : AttestInput) (now : Clock) :
    (∀ a, v.attest i now = a ↔ v.ComesTo i now a) ∧
    ((∃ verdict, (v.attest i now).outcome = .ok verdict ∧ verdict.isValid = true ∧
        verdict.tier = .strong) ↔
      ∃ validator request, v.Asks i validator request ∧
        (validator request).Confirms v.policy.timeout) ∧
    ((∃ verdict, (v.attest i now).outcome = .ok verdict ∧ verdict.isValid = true ∧
        verdict.tier = .bypass) ↔
      (∃ keyId, Supplies i keyId) ∧ ¬ v.IsConfigured ∧ v.policy.allowBypass = true) ∧
    (∀ verdict, (v.attest i now).outcome = .ok verdict → verdict.isValid = true →
      verdict.tier = .strong ∨ verdict.tier = .bypass) ∧
    (v.attest i now).calls.length ≤ 1 ∧
    ∀ call, call ∈ (v.attest i now).calls ↔
      ∃ validator request, v.Asks i validator request ∧ call = .validate request := by
  have hcomes := v.comesTo_attest i now
  refine ⟨fun a => attest_eq_iff, ⟨?_, ?_⟩, ⟨?_, ?_⟩, ?_, hcomes.length_calls_le, fun call => ⟨?_, ?_⟩⟩
  · rintro ⟨verdict, ho, hvalid, ht⟩
    rcases hcomes.tier_of_isValid ho hvalid with ⟨-, hasked⟩ | ⟨hb, -⟩
    · exact hasked
    · rw [ht] at hb
      exact nomatch hb
  · rintro ⟨validator, request, hasks, hconfirms⟩
    rw [attest_eq_iff.2 (.confirmed hasks hconfirms)]
    exact ⟨_, rfl, rfl, rfl⟩
  · rintro ⟨verdict, ho, hvalid, ht⟩
    rcases hcomes.tier_of_isValid ho hvalid with ⟨hs, -⟩ | ⟨-, hbypassed⟩
    · rw [ht] at hs
      exact nomatch hs
    · exact hbypassed
  · rintro ⟨⟨keyId, hkey⟩, hconfigured, hbypass⟩
    rw [attest_eq_iff.2 (.bypassed hkey hconfigured hbypass)]
    exact ⟨_, rfl, rfl, rfl⟩
  · intro verdict ho hvalid
    exact (hcomes.tier_of_isValid ho hvalid).imp And.left And.left
  · exact hcomes.asks_of_mem_calls
  · rintro ⟨validator, request, hasks, rfl⟩
    rw [attest_of_asks hasks]
    exact List.mem_singleton_self _

end AppAttestVerifier

end RelayGate
