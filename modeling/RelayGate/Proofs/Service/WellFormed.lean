import RelayGate.Proofs.Service.Evaluation
import RelayGate.Proofs.Trust.Acceptance
import RelayGate.Proofs.Trust.Judgement

namespace RelayGate

inductive PlayVerifier.Unequipped (v : PlayVerifier) : Prop
  | package (h : v.policy.package = none) : Unequipped v
  | connector (h : v.connector = none) : Unequipped v
  | failed (h : v.connection = .failed) : Unequipped v
  | refused {connector : PlayConnector} {e : AttestFailure} (hconnector : v.connector = some connector)
      (huntried : v.connection = .untried) (h : connector v.credentials = .error e) : Unequipped v

namespace Verifier

def allowsBypass : Verifier → Bool
  | play v => v.policy.allowBypass
  | appAttest v => v.policy.allowBypass

def Unequipped : Verifier → Prop
  | play v => v.Unequipped
  | appAttest v => ¬ v.IsConfigured

def Serves : Verifier → String → Prop
  | play _, platform => platform = "android"
  | appAttest _, platform => platform = "ios"

end Verifier

/-- The parts of the verdict fit together, and go with the verifier. -/
structure Verdict.Fits (verdict : Verdict) (s : Verifier) : Prop where
  reason : verdict.isValid = true ↔ verdict.reason = none
  bypass : verdict.tier = .bypass →
    verdict.isValid = true ∧ s.allowsBypass = true ∧ s.Unequipped
  tier : verdict.isValid = true → verdict.tier ≠ .bypass → .basic ≤ verdict.tier
  strong : s.platform = .ios → verdict.isValid = true → verdict.tier ≠ .bypass →
    verdict.tier = .strong
  unknown : s.platform = .ios → verdict.isValid = false → verdict.tier = .unknown

variable {i : AttestInput} {now : Clock} {s : Verifier}

theorem AttestInput.fits_invalid (i : AttestInput) (reason : Reason) (time : UInt64) (s : Verifier) :
    (i.invalid .unknown reason time).Fits s where
  reason := iff_of_false Bool.false_ne_true (Option.some_ne_none reason)
  bypass h := nomatch h
  tier h := nomatch h
  strong _ h := nomatch h
  unknown _ _ := rfl

theorem AttestInput.fits_strong (i : AttestInput) (time : UInt64) (s : Verifier) :
    (i.valid .strong time).Fits s where
  reason := iff_of_true rfl rfl
  bypass h := nomatch h
  tier _ _ := show Tier.basic ≤ .strong by decide
  strong _ _ _ := rfl
  unknown _ h := nomatch h

theorem AttestInput.fits_bypass (i : AttestInput) (time : UInt64) (hallows : s.allowsBypass = true)
    (h : s.Unequipped) : (i.valid .bypass time).Fits s where
  reason := iff_of_true rfl rfl
  bypass _ := ⟨rfl, hallows, h⟩
  tier _ hne := absurd rfl hne
  strong _ _ hne := absurd rfl hne
  unknown _ hinvalid := nomatch hinvalid

theorem AttestInput.fits_unverified (i : AttestInput) (reason : Reason) (time : UInt64)
    (h : s.Unequipped) : (i.unverified s.allowsBypass reason time).Fits s := by
  cases hbypass : s.allowsBypass with
  | false => exact i.fits_invalid reason time s
  | true => exact i.fits_bypass time hbypass h

theorem PlayPolicy.basic_le_of_acceptsTier {p : PlayPolicy} {t : Tier} (h : p.acceptsTier t = true) :
    .basic ≤ t := by
  cases t with
  | unknown | bypass => exact nomatch h
  | basic | device | strong => decide

theorem PlayPolicy.fits_judge (p : PlayPolicy) (payload : PlayPayload) (package : String)
    (i : AttestInput) (now : Clock) (v : PlayVerifier) :
    (p.judge payload package i now).Fits (.play v) where
  reason := by rw [isValid_judge, reason_judge]
  bypass h := by
    rw [tier_judge] at h
    exact absurd h payload.tier_ne_bypass
  tier hvalid _ := by
    obtain ⟨-, -, -, -, -, -, haccepts⟩ := objection_eq_none_iff.1 ((isValid_judge ..).1 hvalid)
    rw [tier_judge]
    exact basic_le_of_acceptsTier haccepts
  strong h := nomatch h
  unknown h := nomatch h

theorem PlayVerifier.unequipped_or_consults (v : PlayVerifier) (i : AttestInput) (now : Clock) :
    (v.Unequipped ∧ (v.attest i now).1.outcome = .ok (v.unconfigured i now)) ∨
      ∃ backend package, (v.attest i now).1.outcome = v.consult backend package i now := by
  cases hpackage : v.policy.package with
  | none => exact .inl ⟨.package hpackage, by rw [v.attest_unconfigured (.inl hpackage)]; rfl⟩
  | some package =>
      cases hconnector : v.connector with
      | none =>
          exact .inl ⟨.connector hconnector, by rw [v.attest_unconfigured (.inr hconnector)]; rfl⟩
      | some connector =>
          cases hconnection : v.connection with
          | failed => exact .inl ⟨.failed hconnection, by rw [v.attest_failed hconnection]; rfl⟩
          | connected backend =>
              exact .inr ⟨backend, package, by rw [v.attest_connected hpackage hconnector hconnection]⟩
          | untried =>
              cases hc : connector v.credentials with
              | error e =>
                  refine .inl ⟨.refused hconnector hconnection hc, ?_⟩
                  rw [v.attest_refused hpackage hconnector hconnection hc]
                  rfl
              | ok backend =>
                  refine .inr ⟨backend, package, ?_⟩
                  rw [v.attest_admitted hpackage hconnector hconnection hc]

theorem PlayVerifier.fits_attest {v : PlayVerifier} {verdict : Verdict}
    (h : (v.attest i now).1.outcome = .ok verdict) : verdict.Fits (.play v) := by
  rcases v.unequipped_or_consults i now with ⟨hunequipped, ho⟩ | ⟨backend, package, ho⟩
  · obtain rfl := Except.ok.inj (ho.symm.trans h)
    exact AttestInput.fits_unverified i _ _ (s := .play v) hunequipped
  · obtain ⟨payload, -, rfl⟩ := consult_ok (ho.symm.trans h)
    exact v.policy.fits_judge payload package i now v

theorem AppAttestVerifier.fits_attest {v : AppAttestVerifier} {verdict : Verdict}
    (h : (v.attest i now).outcome = .ok verdict) : verdict.Fits (.appAttest v) := by
  have hcomes := v.comesTo_attest i now
  generalize v.attest i now = a at h hcomes
  cases hcomes with
  | unsupplied | unconfigured | malformed =>
      obtain rfl := Except.ok.inj h
      exact i.fits_invalid _ _ _
  | bypassed hkey hconfigured hbypass =>
      obtain rfl := Except.ok.inj h
      exact i.fits_bypass _ (s := .appAttest v) hbypass hconfigured
  | confirmed =>
      obtain rfl := Except.ok.inj h
      exact i.fits_strong _ _
  | failed => exact nomatch h

theorem Verifier.fits_attest {verdict : Verdict} (h : (s.attest i now).1.outcome = .ok verdict) :
    verdict.Fits s := by
  cases s with
  | play v => exact PlayVerifier.fits_attest h
  | appAttest v => exact AppAttestVerifier.fits_attest h

theorem Verifier.serves_iff {platform : String} :
    s.Serves platform ↔ (Named.ofName? platform : Option Platform) = some s.platform := by
  constructor
  · intro h
    cases s with
    | play v =>
        obtain rfl : platform = "android" := h
        exact show Named.ofName? "android" = some Platform.android by decide
    | appAttest v =>
        obtain rfl : platform = "ios" := h
        exact show Named.ofName? "ios" = some Platform.ios by decide
  · intro h
    have hname := Named.name_of_ofName? h
    cases s <;> exact hname.symm

namespace Evaluator

variable {e : Evaluator} {platform : String} {before after : List Verifier}

structure First (e : Evaluator) (platform : String) (before : List Verifier) (s : Verifier)
    (after : List Verifier) : Prop where
  verifiers : e.verifiers = before ++ s :: after
  serves : s.Serves platform
  others : ∀ b ∈ before, ¬ b.Serves platform

def Unserved (e : Evaluator) (platform : String) : Prop :=
  (platform ≠ "android" ∧ platform ≠ "ios") ∨ ∀ s ∈ e.verifiers, ¬ s.Serves platform

theorem Unserved.not_serves (h : e.Unserved platform) (hs : s ∈ e.verifiers) :
    ¬ s.Serves platform := by
  rcases h with ⟨hne, hne'⟩ | h
  · cases s with
    | play v => exact hne
    | appAttest v => exact hne'
  · exact h s hs

theorem exists_first_or_unserved (e : Evaluator) (platform : String) :
    (∃ before s after, e.First platform before s after) ∨ e.Unserved platform := by
  classical
  cases h : e.verifiers.find? fun s => s.Serves platform with
  | none => exact .inr (.inr (by simpa using List.find?_eq_none.1 h))
  | some s =>
      obtain ⟨hs, before, after, hverifiers, hothers⟩ := List.find?_eq_some_iff_append.1 h
      exact .inl ⟨before, s, after, hverifiers, by simpa using hs, by simpa using hothers⟩

theorem attestFirst_append {p : Platform} (hbefore : ∀ b ∈ before, b.platform ≠ p)
    (hs : s.platform = p) : attestFirst p i now (before ++ s :: after) =
      some ((s.attest i now).1, before ++ (s.attest i now).2 :: after) := by
  induction before with
  | nil => rw [List.nil_append, attestFirst, if_pos hs, List.nil_append]
  | cons b bs ih =>
      obtain ⟨hb, hbs⟩ := List.forall_mem_cons.1 hbefore
      rw [List.cons_append, attestFirst, if_neg hb, ih hbs, Option.map_some, List.cons_append]

theorem evaluate_of_first (h : e.First i.platform before s after) :
    e.evaluate i now = ((s.attest i now).1, ⟨before ++ (s.attest i now).2 :: after⟩) := by
  have hplatform := Verifier.serves_iff.1 h.serves
  have hbefore : ∀ b ∈ before, b.platform ≠ s.platform := by
    intro b hb hsame
    apply h.others b hb
    rw [Verifier.serves_iff, hsame, hplatform]
  rw [evaluate, hplatform, Option.bind_some, h.verifiers, attestFirst_append hbefore rfl]

theorem evaluate_of_unserved (h : e.Unserved i.platform) :
    e.evaluate i now =
      (.settled (i.invalid .unknown .unsupportedPlatform now.seconds) [], e) := by
  have hnone (p : Platform) (hp : Named.ofName? i.platform = some p) :
      attestFirst p i now e.verifiers = none := by
    rw [← Option.map_eq_none_iff (f := Prod.fst), attempt_attestFirst, Option.map_eq_none_iff,
      List.find?_eq_none]
    intro s hs hsame
    apply h.not_serves hs
    rw [Verifier.serves_iff, hp, of_decide_eq_true hsame]
  rw [evaluate, Option.bind_eq_none_iff.2 hnone]

end Evaluator

namespace World

variable {w : World} {e : Evaluator}

theorem evaluate_eq (w : World) (e : Evaluator) (i : AttestInput) :
    (w.evaluate e i).1 = (e.evaluate i w.clock).1.outcome ∧
      (w.evaluate e i).2.1 = (e.evaluate i w.clock).2 ∧
      (w.evaluate e i).2.2.calls = w.calls ++ (e.evaluate i w.clock).1.calls := by
  simp only [evaluate]
  cases (e.evaluate i w.clock).1.outcome with
  | error failure => exact ⟨rfl, rfl, rfl⟩
  | ok verdict =>
      refine ⟨rfl, rfl, ?_⟩
      simp only [logVerdict]
      split <;> rfl

structure IsWellFormed (w : World) (e : Evaluator) (i : AttestInput) (verdict : Verdict) : Prop where
  platform : verdict.platform = i.platform
  device : verdict.device = i.device
  time : verdict.time.toNat = w.clock.millis.toNat / 1000
  reason : verdict.isValid = true ↔ verdict.reason = none
  bypass : verdict.tier = .bypass → verdict.isValid = true ∧
    ∃ before s after, e.First i.platform before s after ∧ s.allowsBypass = true ∧ s.Unequipped
  tier : verdict.isValid = true → verdict.tier ≠ .bypass → .basic ≤ verdict.tier
  strong : i.platform = "ios" → verdict.isValid = true → verdict.tier ≠ .bypass →
    verdict.tier = .strong
  unknown : i.platform = "ios" → verdict.isValid = false → verdict.tier = .unknown

theorem isWellFormed_of_fits {before after : List Verifier} {verdict : Verdict}
    (hfirst : e.First i.platform before s after) (habout : verdict.IsAbout i w.clock)
    (hfits : verdict.Fits s) : w.IsWellFormed e i verdict := by
  have hios (h : i.platform = "ios") : s.platform = .ios := by
    have hname := Verifier.serves_iff.1 hfirst.serves
    rw [h] at hname
    exact (Option.some.inj hname).symm
  exact {
    platform := habout.platform
    device := habout.device
    time := by rw [habout.time]; rfl
    reason := hfits.reason
    bypass := fun h => ⟨(hfits.bypass h).1, before, s, after, hfirst, (hfits.bypass h).2⟩
    tier := hfits.tier
    strong := fun h => hfits.strong (hios h)
    unknown := fun h => hfits.unknown (hios h) }

theorem isWellFormed_unsupported (w : World) (e : Evaluator) (i : AttestInput) :
    w.IsWellFormed e i (i.invalid .unknown .unsupportedPlatform w.clock.seconds) where
  platform := rfl
  device := rfl
  time := rfl
  reason := iff_of_false Bool.false_ne_true (Option.some_ne_none _)
  bypass h := nomatch h
  tier h := nomatch h
  strong _ h := nomatch h
  unknown _ _ := rfl

/-- Every verdict on a client is well formed. Where the platform is not one of the two or no verifier
serves it, the verdict says so and nobody is asked, and otherwise the first verifier that serves it is
all that the outcome and the calls depend on. -/
theorem evaluate_wellFormed (w : World) (e : Evaluator) (i : AttestInput) :
    (∀ verdict, (w.evaluate e i).1 = .ok verdict → w.IsWellFormed e i verdict) ∧
    (e.Unserved i.platform →
      (w.evaluate e i).1 = .ok (i.invalid .unknown .unsupportedPlatform w.clock.seconds) ∧
      (w.evaluate e i).2.1 = e ∧ (w.evaluate e i).2.2.calls = w.calls) ∧
    ((∃ before s after, e.First i.platform before s after) ↔ ¬ e.Unserved i.platform) ∧
    ∀ before s after, e.First i.platform before s after →
      (w.evaluate e i).1 = (s.attest i w.clock).1.outcome ∧
      (w.evaluate e i).2.1 = ⟨before ++ (s.attest i w.clock).2 :: after⟩ ∧
      (w.evaluate e i).2.2.calls = w.calls ++ (s.attest i w.clock).1.calls := by
  obtain ⟨houtcome, hevaluator, hcalls⟩ := w.evaluate_eq e i
  rw [houtcome, hevaluator, hcalls]
  refine ⟨?_, ?_, ?_, ?_⟩
  · intro verdict h
    rcases e.exists_first_or_unserved i.platform with ⟨before, s, after, hfirst⟩ | hunserved
    · rw [Evaluator.evaluate_of_first hfirst] at h
      exact isWellFormed_of_fits hfirst (Verifier.isAbout_attest h) (Verifier.fits_attest h)
    · rw [Evaluator.evaluate_of_unserved hunserved] at h
      obtain rfl := Except.ok.inj h
      exact w.isWellFormed_unsupported e i
  · intro hunserved
    rw [Evaluator.evaluate_of_unserved hunserved]
    exact ⟨rfl, rfl, List.append_nil _⟩
  · refine ⟨?_, (e.exists_first_or_unserved i.platform).resolve_right⟩
    rintro ⟨before, s, after, hfirst⟩ hunserved
    have hs : s ∈ e.verifiers := by rw [hfirst.verifiers]; exact List.mem_append_cons_self
    exact hunserved.not_serves hs hfirst.serves
  · intro before s after hfirst
    rw [Evaluator.evaluate_of_first hfirst]
    exact ⟨rfl, rfl, rfl⟩

def lenient : Evaluator :=
  ⟨[.appAttest ⟨.standard, none⟩,
    .play (.new { PlayPolicy.standard with allowBypass := true } none none)]⟩

theorem evaluate_wellFormed_lenient :
    (atClock ⟨1999⟩).IsWellFormed lenient ⟨"android", "", "device", none⟩
        (.valid "android" "device" .bypass 1) ∧
      lenient.Unserved "Android" ∧
      ((atClock ⟨1999⟩).evaluate lenient ⟨"Android", "", "device", none⟩).2.2.calls = [] := by
  have hunserved : lenient.Unserved "Android" := .inl ⟨by decide, by decide⟩
  exact ⟨(evaluate_wellFormed _ _ _).1 _ rfl, hunserved,
    ((evaluate_wellFormed (atClock ⟨1999⟩) lenient ⟨"Android", "", "device", none⟩).2.1 hunserved).2.2⟩

end World

end RelayGate
