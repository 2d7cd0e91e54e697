import RelayGate.Proofs.Trust.Bypass
import RelayGate.Proofs.Trust.Dispatch

namespace RelayGate

namespace PlayPayload

def labels (p : PlayPayload) : List String :=
  match p.device with
  | some device => device.labels
  | none => []

def rated : List (String × Tier) :=
  [("MEETS_STRONG_INTEGRITY", .strong), ("MEETS_DEVICE_INTEGRITY", .device),
    ("MEETS_BASIC_INTEGRITY", .basic)]

/-- No label stands for more, and one stands for as much unless the tier is unknown. -/
structure IsHighest (labels : List String) (t : Tier) : Prop where
  bound : ∀ r ∈ rated, r.1 ∈ labels → r.2 ≤ t
  reached : t = .unknown ∨ ∃ r ∈ rated, r.1 ∈ labels ∧ r.2 = t

theorem labelTier_of_mem_rated : ∀ r ∈ rated, labelTier r.1 = r.2 := by
  decide

theorem mem_rated_of_labelTier {label : String} (h : labelTier label ≠ .unknown) :
    (label, labelTier label) ∈ rated := by
  unfold labelTier at h ⊢
  split
  · exact List.mem_cons_self
  · exact List.mem_cons_of_mem _ List.mem_cons_self
  · exact List.mem_cons_of_mem _ (List.mem_cons_of_mem _ List.mem_cons_self)
  · split at h
    · contradiction
    · contradiction
    · contradiction
    · exact absurd rfl h

theorem tier_eq_foldl (p : PlayPayload) :
    p.tier = (p.labels.map labelTier).foldl .max .unknown := by
  rw [tier, labels]
  cases p.device <;> rfl

theorem isHighest_tier (p : PlayPayload) : IsHighest p.labels p.tier := by
  rw [tier_eq_foldl]
  refine ⟨?_, ?_⟩
  · intro r hr hlabel
    rw [← labelTier_of_mem_rated r hr]
    exact (Tier.le_foldl_max _ _).2 _ (List.mem_map_of_mem hlabel)
  · rcases Tier.foldl_max_mem (p.labels.map labelTier) .unknown with hunknown | hmem
    · exact .inl hunknown
    · obtain ⟨label, hlabel, ht⟩ := List.mem_map.1 hmem
      rw [← ht]
      by_cases hunknown : labelTier label = .unknown
      · exact .inl hunknown
      · exact .inr ⟨_, mem_rated_of_labelTier hunknown, hlabel, rfl⟩

theorem IsHighest.le {labels : List String} {t u : Tier} (ht : IsHighest labels t)
    (hu : IsHighest labels u) : t ≤ u := by
  rcases ht.reached with rfl | ⟨r, hr, hlabel, rfl⟩
  · exact Nat.zero_le _
  · exact hu.bound r hr hlabel

theorem tier_eq_iff {p : PlayPayload} {t : Tier} : p.tier = t ↔ IsHighest p.labels t := by
  constructor
  · rintro rfl
    exact p.isHighest_tier
  · intro h
    exact Tier.le_antisymm (p.isHighest_tier.le h) (h.le p.isHighest_tier)

theorem IsHighest.congr {labels others : List String} {t : Tier} (h : IsHighest labels t)
    (hsame : ∀ r ∈ rated, r.1 ∈ others ↔ r.1 ∈ labels) : IsHighest others t where
  bound r hr hlabel := h.bound r hr ((hsame r hr).1 hlabel)
  reached := by
    rcases h.reached with rfl | ⟨r, hr, hlabel, ht⟩
    · exact .inl rfl
    · exact .inr ⟨r, hr, (hsame r hr).2 hlabel, ht⟩

end PlayPayload

namespace PlayPolicy

open PlayPayload (IsHighest)

/-- The reasons for which a payload may be objected to, in the order in which they are looked at. -/
def grounds : List Reason :=
  [.missingTokenPayload, .packageNameMismatch, .attestationExpired, .appNotRecognized,
    .appNotLicensed, .deviceIntegrityFailed]

def Meets (p : PlayPolicy) (payload : PlayPayload) (package : String) (now : Clock) : Reason → Prop
  | .missingTokenPayload => ∃ request, payload.request = some request
  | .packageNameMismatch =>
    ∃ request, payload.request = some request ∧ request.package = some package
  | .attestationExpired =>
    ∃ request time, payload.request = some request ∧ request.time = some time ∧
      ((now.millis.toNat : Int) - time.toNat).natAbs ≤ p.maxAge.millis
  | .appNotRecognized => ∃ app, payload.app = some app ∧ app.recognition = some "PLAY_RECOGNIZED"
  | .appNotLicensed =>
    p.requireLicensed = false ∨
      ∃ account, payload.account = some account ∧ account.licensing = some "LICENSED"
  | .deviceIntegrityFailed =>
    IsHighest payload.labels .strong ∨
      p.allowBasic = true ∧ (IsHighest payload.labels .basic ∨ IsHighest payload.labels .device)
  | _ => True

def IsFirstObjection (p : PlayPolicy) (payload : PlayPayload) (package : String) (now : Clock)
    (reason : Reason) : Prop :=
  ∃ before after, grounds = before ++ reason :: after ∧
    (∀ r ∈ before, p.Meets payload package now r) ∧ ¬ p.Meets payload package now reason

variable {p : PlayPolicy} {payload : PlayPayload} {package : String} {now : Clock}
  {request : PlayPayload.Request}

theorem meets_package_iff (h : payload.request = some request) :
    p.Meets payload package now .packageNameMismatch ↔ request.package = some package := by
  simp [Meets, h]

theorem meets_age_iff (h : payload.request = some request) :
    p.Meets payload package now .attestationExpired ↔ p.isFresh now request.time = true := by
  cases htime : request.time with
  | none => simp [Meets, h, htime, isFresh]
  | some time => simp [Meets, h, htime, isFresh_some_iff]

theorem meets_recognition_iff : p.Meets payload package now .appNotRecognized ↔
    payload.recognition = some "PLAY_RECOGNIZED" := by
  rw [PlayPayload.recognition, Option.bind_eq_some_iff]
  rfl

theorem meets_licensing_iff : p.Meets payload package now .appNotLicensed ↔
    ¬ (p.requireLicensed = true ∧ payload.licensing ≠ some "LICENSED") := by
  rw [PlayPayload.licensing, not_and, Decidable.not_not, Option.bind_eq_some_iff]
  cases hl : p.requireLicensed <;> simp [Meets, hl]

theorem meets_tier_iff : p.Meets payload package now .deviceIntegrityFailed ↔
    p.acceptsTier payload.tier = true := by
  rw [Meets]
  simp only [← PlayPayload.tier_eq_iff]
  cases payload.tier <;> simp [acceptsTier]

theorem objection_eq_find? [DecidablePred (p.Meets payload package now)] :
    p.objection payload package now = grounds.find? fun r => ¬ p.Meets payload package now r := by
  have hstep (r : Reason) (rs : List Reason) :
      ((r :: rs).find? fun r => ¬ p.Meets payload package now r) =
        if ¬ p.Meets payload package now r then some r
        else rs.find? fun r => ¬ p.Meets payload package now r := by
    by_cases hr : p.Meets payload package now r <;> simp [hr]
  cases hr : payload.request with
  | none =>
      have hmissing : ¬ p.Meets payload package now .missingTokenPayload := by simp [Meets, hr]
      rw [grounds, hstep, if_pos hmissing, objection, hr]
  | some request =>
      have hpresent : p.Meets payload package now .missingTokenPayload := ⟨request, hr⟩
      rw [grounds, hstep, if_neg (not_not_intro hpresent), objection, hr]
      simp only [hstep, meets_package_iff hr, meets_age_iff hr, meets_recognition_iff,
        meets_licensing_iff, meets_tier_iff, List.find?_nil, Decidable.not_not, ne_eq,
        Bool.not_eq_true', Bool.not_eq_true]

theorem objection_eq_none_iff_meets : p.objection payload package now = none ↔
    ∀ r ∈ grounds, p.Meets payload package now r := by
  classical
  rw [objection_eq_find?, List.find?_eq_none]
  simp only [decide_not, Bool.not_eq_true', decide_eq_false_iff_not, Decidable.not_not]

theorem objection_eq_some_iff {reason : Reason} : p.objection payload package now = some reason ↔
    p.IsFirstObjection payload package now reason := by
  classical
  rw [objection_eq_find?, List.find?_eq_some_iff_append, IsFirstObjection]
  simp only [decide_not, Bool.not_eq_true', decide_eq_false_iff_not, Bool.not_not,
    decide_eq_true_eq]
  constructor
  · rintro ⟨hunmet, before, after, hgrounds, hmet⟩
    exact ⟨before, after, hgrounds, hmet, hunmet⟩
  · rintro ⟨before, after, hgrounds, hmet, hunmet⟩
    exact ⟨hunmet, before, after, hgrounds, hmet⟩

theorem reason_judge (p : PlayPolicy) (payload : PlayPayload) (package : String) (i : AttestInput)
    (now : Clock) : (p.judge payload package i now).reason = p.objection payload package now := by
  rw [judge]
  split
  · next reason h => rw [h]; rfl
  · next h => rw [h]; rfl

theorem isValid_judge (p : PlayPolicy) (payload : PlayPayload) (package : String) (i : AttestInput)
    (now : Clock) : (p.judge payload package i now).isValid = true ↔
      p.objection payload package now = none := by
  rw [judge]
  split
  · next reason h => simp [h, AttestInput.invalid, Verdict.invalid]
  · next h => simp [h, AttestInput.valid, Verdict.valid]

/-- Whatever the policy, the payload and the times are: the verdict is valid if and only if all of the
conditions are met, it names a reason if and only if that is the first one that stands against the
payload, and its tier is the highest that the labels stand for. So neither the order of the labels
nor how often they come nor what other labels there are makes a difference to the tier. -/
theorem judge_exact (p : PlayPolicy) (payload : PlayPayload) (package : String) (i : AttestInput)
    (now : Clock) :
    let verdict := p.judge payload package i now
    verdict.IsAbout i now ∧
    (verdict.isValid = true ↔ ∀ r ∈ grounds, p.Meets payload package now r) ∧
    (verdict.isValid = false ↔ ∃ reason, p.IsFirstObjection payload package now reason) ∧
    (∀ reason, verdict.reason = some reason ↔ p.IsFirstObjection payload package now reason) ∧
    (∀ t, verdict.tier = t ↔ IsHighest payload.labels t) ∧
    ∀ other : PlayPayload,
      (∀ r ∈ PlayPayload.rated, r.1 ∈ other.labels ↔ r.1 ∈ payload.labels) →
        (p.judge other package i now).tier = verdict.tier := by
  intro verdict
  have hvalid : verdict.isValid = true ↔ p.objection payload package now = none :=
    p.isValid_judge payload package i now
  have htier : verdict.tier = payload.tier := p.tier_judge payload package i now
  refine ⟨p.isAbout_judge payload package i now, hvalid.trans objection_eq_none_iff_meets, ?_, ?_,
    ?_, ?_⟩
  · rw [← Bool.not_eq_true, hvalid, ← ne_eq, Option.ne_none_iff_exists']
    simp only [objection_eq_some_iff]
  · intro reason
    rw [← objection_eq_some_iff]
    exact iff_of_eq (congrArg (· = some reason) (p.reason_judge payload package i now))
  · intro t
    rw [htier, PlayPayload.tier_eq_iff]
  · intro other hsame
    have hhighest := payload.isHighest_tier.congr hsame
    rw [tier_judge, htier, PlayPayload.tier_eq_iff.2 hhighest]

end PlayPolicy

end RelayGate
