import RelayGate.Proofs.Pack.Issuer
import RelayGate.Proofs.Rollout.Bucket
import RelayGate.Proofs.Rollout.Override

namespace RelayGate

namespace Rollout

theorem clamp_mono {p q : Int} (h : p ≤ q) : clamp p ≤ clamp q := by
  have hp := val_clamp p
  have hq := val_clamp q
  rw [Fin.le_def]
  omega

namespace Gate

/-- The other gate has percentages under the same names, and none of them is lower. -/
def IsRaisedTo (g g' : Gate) : Prop :=
  ∀ name, Option.Rel (· ≤ ·) (g.overrides.get? name) (g'.overrides.get? name)

variable {g g' : Gate}

theorem isRaisedTo_refl (g : Gate) : g.IsRaisedTo g := by
  intro name
  cases g.overrides.get? name with
  | none => exact .none
  | some p => exact .some (Fin.le_refl p)

theorem IsRaisedTo.override (h : g.IsRaisedTo g') (version region : Option String) {p q : Int}
    (hpq : p ≤ q) : (g.override version region p).IsRaisedTo (g'.override version region q) := by
  intro name
  rw [override_eq_set, override_eq_set, get?_set, get?_set]
  by_cases hname : name = overrideName version region
  · rw [if_pos hname, if_pos hname]
    exact .some (clamp_mono hpq)
  · rw [if_neg hname, if_neg hname]
    exact h name

theorem IsRaisedTo.findSome? (h : g.IsRaisedTo g') (names : List String) :
    Option.Rel (· ≤ ·) (names.findSome? g.overrides.get?) (names.findSome? g'.overrides.get?) := by
  induction names with
  | nil => exact .none
  | cons name names ih =>
      rw [List.findSome?_cons, List.findSome?_cons]
      have hname := h name
      generalize g.overrides.get? name = p, g'.overrides.get? name = p' at hname
      cases hname with
      | none => exact ih
      | some hle => exact .some hle

theorem getD_le {p p' : Option Percentage} (h : Option.Rel (· ≤ ·) p p') (absent : Percentage) :
    p.getD absent ≤ p'.getD absent := by
  cases h with
  | none => exact Fin.le_refl absent
  | some hle => exact hle

theorem IsRaisedTo.percentage_le (h : g.IsRaisedTo g') (version region : String) :
    g.percentage version region ≤ g'.percentage version region :=
  getD_le (h.findSome? (scopesFor version region)) 100

theorem includes_iff {client version region : String} : g.includes client version region = true ↔
    bucket client version region < (g.percentage version region).val :=
  decide_eq_true_iff

theorem IsRaisedTo.includes (h : g.IsRaisedTo g') {client version region : String}
    (hin : g.includes client version region = true) :
    g'.includes client version region = true := by
  rw [includes_iff] at hin ⊢
  exact Nat.lt_of_lt_of_le hin (h.percentage_le version region)

theorem not_includes_of_zero {version region : String} (h : g.percentage version region = 0)
    (client : String) : g.includes client version region = false := by
  rw [← Bool.not_eq_true, includes_iff, h]
  exact Nat.not_lt_zero _

theorem includes_of_hundred {version region : String} (h : g.percentage version region = 100)
    (client : String) : g.includes client version region = true := by
  rw [includes_iff, h]
  exact bucket_lt client version region

theorem eq_full_of_isEmpty (h : g.isEmpty = true) : g = full := by
  obtain ⟨overrides⟩ := g
  exact congrArg Gate.mk (KeyMap.ext_entries (List.isEmpty_iff.1 h))

end Gate

end Rollout

namespace Pack

open Rollout (Gate)

def cohort? (p : Pack) : Option String := p.metadata.get? "rollout"

namespace Issuer

theorem get?_rollout_metadata (b : Pack.Issuer) (client region : String) :
    (b.metadata client region).get? "rollout" = b.gate.map fun g => cohort g client region := by
  rw [metadata]
  cases b.gate with
  | none =>
      have habsent : [("region", region), ("client_id", client)].lookup "rollout" = none := rfl
      exact (KeyMap.get?_ofList _ _).trans habsent
  | some g => exact KeyMap.get?_insert _ _ _ _

theorem cohort?_issue {b : Pack.Issuer} {l : Lookup} {now : Clock} {client hint : String}
    {preferred : List String} {verdict : Option Verdict} {region : String} {p : Pack}
    (h : b.issue l now client hint preferred verdict = .ok (region, p)) :
    p.cohort? = b.gate.map fun g => cohort g client region := by
  obtain ⟨-, es, -, rfl⟩ := issue_ok h
  exact b.get?_rollout_metadata client region

theorem cohort_eq_current_iff {g : Gate} {client region : String} :
    cohort g client region = "current" ↔ g.includes client formatVersion region = true := by
  rw [cohort]
  cases g.includes client formatVersion region <;> decide

theorem cohort_of_raised {gate gate' : Option Gate} (h : Option.Rel Gate.IsRaisedTo gate gate')
    {client region : String}
    (hcurrent : (gate.map fun g => cohort g client region) = some "current") :
    (gate'.map fun g => cohort g client region) = some "current" := by
  cases h with
  | none => exact hcurrent
  | some hraised =>
      have hin := cohort_eq_current_iff.1 (Option.some.inj hcurrent)
      exact congrArg some (cohort_eq_current_iff.2 (hraised.includes hin))

/-- Raising percentages only widens a rollout: whom a gate lets in, the raised gate lets in, too. A
percentage of zero for a version and a region lets in no client there, and one of a hundred all of them,
as a gate without overrides does anywhere. And of two packs for one client and one region, however else
they were issued, the one behind the raised gate is for the current cohort if the other one is. -/
theorem staging_monotone :
    (∀ {g g' : Gate}, g.IsRaisedTo g' → ∀ client version region,
      g.includes client version region = true → g'.includes client version region = true) ∧
    (∀ (g : Gate) (client version region : String),
      (g.percentage version region = 0 → g.includes client version region = false) ∧
      (g.percentage version region = 100 → g.includes client version region = true) ∧
      (g.isEmpty = true → g.includes client version region = true)) ∧
    ∀ {b b' : Pack.Issuer}, Option.Rel Gate.IsRaisedTo b.gate b'.gate →
      ∀ (l l' : Lookup) (now now' : Clock) (client hint hint' : String)
        (preferred preferred' : List String) (verdict verdict' : Option Verdict) (region : String)
        (p p' : Pack), b.issue l now client hint preferred verdict = .ok (region, p) →
          b'.issue l' now' client hint' preferred' verdict' = .ok (region, p') →
            p.cohort? = some "current" → p'.cohort? = some "current" := by
  refine ⟨?_, ?_, ?_⟩
  · intro g g' hraised client version region hin
    exact hraised.includes hin
  · intro g client version region
    refine ⟨fun h => Gate.not_includes_of_zero h client, fun h => Gate.includes_of_hundred h client, ?_⟩
    intro hempty
    obtain rfl := Gate.eq_full_of_isEmpty hempty
    exact Gate.includes_of_hundred (Gate.percentage_full version region) client
  · intro b b' hraised l l' now now' client hint hint' preferred preferred' verdict verdict' region p p'
      hp hp' hcurrent
    rw [cohort?_issue hp] at hcurrent
    rw [cohort?_issue hp']
    exact cohort_of_raised hraised hcurrent

def stage (overall zurich : Int) : Gate :=
  (Gate.full.override none none overall).override none (some "zürich") zurich

theorem issue_empty {b : Pack.Issuer} (h : b.policy = .replace) (now : Clock) (client hint : String)
    (preferred : List String) : ∃ p, b.issue Directory.empty.lookup now client hint preferred none =
      .ok (Directory.empty.lookup.chooseRegion hint preferred, p) := by
  have hchoose (region : String) :
      Directory.empty.lookup.choose b.policy region none b.maxEndpoints = .ok [] := by
    simp [h, Lookup.choose, Lookup.candidates, Directory.lookup, Directory.decoysIn, Directory.empty,
      needsDecoys, leastLoaded]
  exact ⟨_, issue_of_choose (hchoose _) now client⟩

theorem staging_monotone_stages :
    (stage 70 0).IsRaisedTo (stage 100 40) ∧
    (stage 70 0).includes "device" "1.0" "us-east-1" = true ∧
    (stage 100 40).includes "device" "1.0" "us-east-1" = true ∧
    (stage 70 0).percentage "1.0" "Zürich" = 0 ∧
    (stage 70 0).includes "device" "1.0" "Zürich" = false ∧
    (stage 100 40).percentage "1.0" "us-east-1" = 100 ∧
    (stage 100 40).includes "phone" "1.0" "us-east-1" = true ∧
    Gate.full.isEmpty = true ∧ Gate.full.includes "phone" "1.0" "Zürich" = true ∧
    ∃ p p', (⟨⟨[7], true⟩, .replace, 0, some (stage 70 0)⟩ : Pack.Issuer).issue
        Directory.empty.lookup (.atSeconds 5) "device" "" [] none = .ok ("us-east-1", p) ∧
      (⟨⟨[8], false⟩, .replace, 3, some (stage 100 40)⟩ : Pack.Issuer).issue
        Directory.empty.lookup (.atSeconds 6) "device" "mars" ["venus"] none =
          .ok ("us-east-1", p') ∧
      p.cohort? = some "current" ∧ p'.cohort? = some "current" := by
  obtain ⟨hwiden, hbounds, hpacks⟩ := staging_monotone
  have hraised : (stage 70 0).IsRaisedTo (stage 100 40) :=
    ((Gate.isRaisedTo_refl .full).override none none (by decide)).override none (some "zürich")
      (by decide)
  have hin : (stage 70 0).includes "device" "1.0" "us-east-1" = true := by decide +kernel
  have hzero : (stage 70 0).percentage "1.0" "Zürich" = 0 := by decide +kernel
  have hhundred : (stage 100 40).percentage "1.0" "us-east-1" = 100 := by decide +kernel
  obtain ⟨p, hissue⟩ := issue_empty (b := ⟨⟨[7], true⟩, .replace, 0, some (stage 70 0)⟩) rfl
    (.atSeconds 5) "device" "" []
  obtain ⟨p', hissue'⟩ := issue_empty (b := ⟨⟨[8], false⟩, .replace, 3, some (stage 100 40)⟩) rfl
    (.atSeconds 6) "device" "mars" ["venus"]
  have hregion : Directory.empty.lookup.chooseRegion "" [] = "us-east-1" := by decide +kernel
  have hregion' : Directory.empty.lookup.chooseRegion "mars" ["venus"] = "us-east-1" := by
    decide +kernel
  rw [hregion] at hissue
  rw [hregion'] at hissue'
  have hcurrent : p.cohort? = some "current" :=
    (cohort?_issue hissue).trans (congrArg some (cohort_eq_current_iff.2 hin))
  refine ⟨hraised, hin, hwiden hraised _ _ _ hin, hzero, (hbounds _ _ _ _).1 hzero, hhundred,
    (hbounds _ _ _ _).2.1 hhundred, rfl, (hbounds _ _ _ _).2.2 rfl, _, _, hissue, hissue', hcurrent,
    hpacks (.some hraised) _ _ _ _ _ _ _ _ _ _ _ _ _ _ hissue hissue' hcurrent⟩

end Issuer

end Pack

end RelayGate
