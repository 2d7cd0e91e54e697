import RelayGate.Proofs.KeyMap
import RelayGate.Proofs.Rollout.Scope

namespace RelayGate.Rollout

/-- A part that is given has a normal form. -/
def IsNamed (part : Option String) : Prop := ∀ s ∈ part, normalForm s ≠ ""

theorem isNamed_none : IsNamed none := nofun

theorem isNamed_some_iff {s : String} : IsNamed (some s) ↔ normalForm s ≠ "" := by
  simp [IsNamed]

theorem val_clamp (n : Int) : ((clamp n).val : Int) = max 0 (min n 100) := by
  change ((min n.toNat 100 : Nat) : Int) = max 0 (min n 100)
  omega

def overrideName (version region : Option String) : String :=
  scopeName ((version.toList ++ region.toList).map normalForm)

@[simp]
theorem overrideName_version (v : String) :
    overrideName (some v) none = scopeBehind (normalForm v) := rfl

@[simp]
theorem overrideName_region (r : String) :
    overrideName none (some r) = scopeBehind (normalForm r) := rfl

@[simp]
theorem overrideName_both (v r : String) :
    overrideName (some v) (some r) = scopeBehind (normalForm v ++ "_" ++ normalForm r) :=
  scopeName_pair (normalForm v) (normalForm r)

theorem scopesFor_getD {version region : Option String} (hv : IsNamed version)
    (hr : IsNamed region) : ∃ rest, Gate.scopesFor (version.getD "") (region.getD "") =
      overrideName version region :: rest := by
  have hempty : normalForm "" = "" := rfl
  cases version with
  | none =>
      cases region with
      | none => exact ⟨_, scopesFor_neither hempty hempty⟩
      | some r => exact ⟨_, scopesFor_region hempty (hr r rfl)⟩
  | some v =>
      cases region with
      | none => exact ⟨_, scopesFor_version (hv v rfl) hempty⟩
      | some r =>
          rw [overrideName_both]
          exact ⟨_, scopesFor_both (hv v rfl) (hr r rfl)⟩

theorem overrideName_not_mem {version region : Option String}
    (h : ¬ (IsNamed version ∧ IsNamed region)) (v r : String) :
    overrideName version region ∉ Gate.scopesFor v r := by
  intro hmem
  apply h
  cases version with
  | none =>
      cases region with
      | none => exact ⟨isNamed_none, isNamed_none⟩
      | some region => exact ⟨isNamed_none, isNamed_some_iff.2 (isPart_of_mem hmem).ne_empty⟩
  | some version =>
      cases region with
      | none => exact ⟨isNamed_some_iff.2 (isPart_of_mem hmem).ne_empty, isNamed_none⟩
      | some region =>
          rw [overrideName_both] at hmem
          obtain ⟨hv, hr⟩ := (isPart_of_mem hmem).ne_empty_of_join
          exact ⟨isNamed_some_iff.2 hv, isNamed_some_iff.2 hr⟩

namespace Gate

variable {name version region : String}

def set (g : Gate) (name : String) (p : Percentage) : Gate := ⟨g.overrides.insert name p⟩

theorem override_eq_set (g : Gate) (version region : Option String) (p : Int) :
    g.override version region p = g.set (overrideName version region) (clamp p) := rfl

theorem get?_set (g : Gate) (name : String) (p : Percentage) (s : String) :
    (g.set name p).overrides.get? s = if s = name then some p else g.overrides.get? s :=
  KeyMap.get?_insert g.overrides name p s

theorem findSome?_set_of_not_mem {names : List String} (h : name ∉ names) (g : Gate)
    (p : Percentage) :
    names.findSome? (g.set name p).overrides.get? = names.findSome? g.overrides.get? := by
  induction names with
  | nil => rfl
  | cons s names ih =>
      have hne : s ≠ name := (List.ne_of_not_mem_cons h).symm
      rw [List.findSome?_cons, List.findSome?_cons, get?_set, if_neg hne,
        ih (List.not_mem_of_not_mem_cons h)]

theorem findSome?_set_full {names : List String} (h : name ∈ names) (p : Percentage) :
    names.findSome? (full.set name p).overrides.get? = some p := by
  induction names with
  | nil => exact absurd h List.not_mem_nil
  | cons s names ih =>
      rw [List.findSome?_cons, get?_set]
      by_cases hs : s = name
      · rw [if_pos hs]
      · have hrest : name ∈ names := (List.mem_cons.1 h).resolve_left fun heq => hs heq.symm
        rw [if_neg hs, ih hrest]
        rfl

theorem percentage_set_of_head {rest : List String} (h : scopesFor version region = name :: rest)
    (g : Gate) (p : Percentage) : (g.set name p).percentage version region = p := by
  rw [percentage, h, List.findSome?_cons, get?_set, if_pos rfl]
  rfl

theorem percentage_set_of_not_mem (h : name ∉ scopesFor version region) (g : Gate)
    (p : Percentage) : (g.set name p).percentage version region = g.percentage version region := by
  rw [percentage, percentage, findSome?_set_of_not_mem h]

theorem percentage_set_full (h : name ∈ scopesFor version region) (p : Percentage) :
    (full.set name p).percentage version region = p := by
  rw [percentage, findSome?_set_full h]
  rfl

theorem percentage_full (version region : String) : full.percentage version region = 100 := by
  have hnone : (scopesFor version region).findSome? full.overrides.get? = none :=
    List.findSome?_eq_none_iff.2 fun _ _ => rfl
  rw [percentage, hnone]
  rfl

/-- Whatever the gate, an override of a version and a region, each of them given or not, decides their
percentage if every part that is given has a normal form. If one of them has none, the override has no
effect on any version and region, and so their percentage is the one of the override only if it
was that already. -/
theorem override_answers_iff (g : Gate) (version region : Option String) (p : Int) :
    let v := version.getD ""
    let r := region.getD ""
    ((((g.override version region p).percentage v r).val : Int) = max 0 (min p 100) ↔
      IsNamed version ∧ IsNamed region ∨ ((g.percentage v r).val : Int) = max 0 (min p 100)) ∧
    (¬ (IsNamed version ∧ IsNamed region) →
      ∀ v r, (g.override version region p).percentage v r = g.percentage v r) := by
  intro v r
  have hsame (h : ¬ (IsNamed version ∧ IsNamed region)) (v r : String) :
      (g.override version region p).percentage v r = g.percentage v r := by
    rw [override_eq_set]
    exact percentage_set_of_not_mem (overrideName_not_mem h v r) g (clamp p)
  refine ⟨?_, hsame⟩
  by_cases hnamed : IsNamed version ∧ IsNamed region
  · obtain ⟨rest, hscopes⟩ := scopesFor_getD hnamed.1 hnamed.2
    rw [override_eq_set, percentage_set_of_head hscopes g, val_clamp]
    exact iff_of_true rfl (.inl hnamed)
  · rw [hsame hnamed v r]
    exact (or_iff_right hnamed).symm

/-- A version of dashes only has no normal form, and its override is never read. -/
theorem override_overlooked :
    ¬ ∀ (g : Gate) (version region : Option String) (p : Int), -2 ^ 63 ≤ p → p < 2 ^ 63 →
      (((g.override version region p).percentage (version.getD "") (region.getD "")).val : Int) =
        max 0 (min p 100) := by
  intro h
  have hanswer := h full (some "--") none 5 (by decide) (by decide)
  have hread : (full.override (some "--") none 5).percentage "--" "" = 100 := by decide +kernel
  rw [Option.getD_some, Option.getD_none, hread] at hanswer
  exact absurd hanswer (by decide)

/-- The override changes the percentage of the version and the region in some gate. -/
def Reaches (version region : Option String) (v r : String) : Prop :=
  ∃ (g : Gate) (p : Int), (g.override version region p).percentage v r ≠ g.percentage v r

theorem reaches_iff {version region : Option String} {v r : String} :
    Reaches version region v r ↔ overrideName version region ∈ scopesFor v r := by
  constructor
  · rintro ⟨g, p, hchange⟩
    by_contra hnot
    exact hchange (percentage_set_of_not_mem hnot g (clamp p))
  · intro hmem
    refine ⟨full, 0, ?_⟩
    rw [override_eq_set, percentage_set_full hmem, percentage_full]
    decide

/-- Overrides of parts with normal forms reach the versions and regions that their names apply to: the
one of a version reaches what has its normal form as the version, but also what has it as the region,
or as version and region joined by an underscore; the one of a region alike; and the one of both
reaches what has both of them joined for version and region, or for one of these. -/
theorem override_reaches_iff {v r : String} (hv : normalForm v ≠ "") (hr : normalForm r ≠ "")
    (v' r' : String) :
    let joined := normalForm v ++ "_" ++ normalForm r
    let joined' := normalForm v' ++ "_" ++ normalForm r'
    (Reaches (some v) none v' r' ↔
      normalForm v' = normalForm v ∨ normalForm r' = normalForm v ∨ joined' = normalForm v) ∧
    (Reaches none (some r) v' r' ↔
      normalForm v' = normalForm r ∨ normalForm r' = normalForm r ∨ joined' = normalForm r) ∧
    (Reaches (some v) (some r) v' r' ↔
      normalForm v' = joined ∨ normalForm r' = joined ∨ joined' = joined) := by
  have hversion : IsPart (normalForm v) := isPart_normalForm hv
  have hregion : IsPart (normalForm r) := isPart_normalForm hr
  refine ⟨?_, ?_, ?_⟩
  · rw [reaches_iff, overrideName_version, scopeBehind_mem_iff hversion]
  · rw [reaches_iff, overrideName_region, scopeBehind_mem_iff hregion]
  · rw [reaches_iff, overrideName_both, scopeBehind_mem_iff (hversion.join hregion)]

theorem override_reaches_iff_zurich : normalForm "1.0" ≠ "" ∧ normalForm "zürich" ≠ "" ∧
    ¬ Reaches (some "1.0") (some "zürich") "2.0" "Zürich" ∧
    Reaches (some "1.0") (some "zürich") "2.0" "1-0-ZÜRICH" := by
  have hv : normalForm "1.0" = "1_0" := by decide +kernel
  have hr : normalForm "zürich" = "ZÜRICH" := by decide +kernel
  have hv' : normalForm "2.0" = "2_0" := by decide +kernel
  have hr' : normalForm "Zürich" = "ZÜRICH" := by decide +kernel
  have hr'' : normalForm "1-0-ZÜRICH" = "1_0_ZÜRICH" := by decide +kernel
  have hne : normalForm "1.0" ≠ "" := by rw [hv]; decide
  have hne' : normalForm "zürich" ≠ "" := by rw [hr]; decide
  refine ⟨hne, hne', ?_, ?_⟩
  · rw [(override_reaches_iff hne hne' "2.0" "Zürich").2.2, hv, hr, hv', hr']
    decide
  · rw [(override_reaches_iff hne hne' "2.0" "1-0-ZÜRICH").2.2, hv, hr, hv', hr'']
    decide

/-- A version and a region may have one normal form, and then the override of one is read for the
other. -/
theorem override_reaches_elsewhere :
    ¬ ∀ (g : Gate) (v r : String) (p : Int) (v' r' : String),
      normalForm v ≠ "" → normalForm r ≠ "" →
      ((g.override (some v) none p).percentage v' r' ≠ g.percentage v' r' →
        normalForm v' = normalForm v) ∧
      ((g.override none (some r) p).percentage v' r' ≠ g.percentage v' r' →
        normalForm r' = normalForm r) ∧
      ((g.override (some v) (some r) p).percentage v' r' ≠ g.percentage v' r' →
        normalForm v' = normalForm v ∧ normalForm r' = normalForm r) := by
  intro h
  have hv : normalForm "a" ≠ "" := by decide +kernel
  have hr : normalForm "b" ≠ "" := by decide +kernel
  have hchange : (full.override (some "a") none 5).percentage "c" "a" ≠
      full.percentage "c" "a" := by decide +kernel
  have hsame : normalForm "c" = normalForm "a" := (h full "a" "b" 5 "c" "a" hv hr).1 hchange
  revert hsame
  decide +kernel

end Gate

end RelayGate.Rollout
