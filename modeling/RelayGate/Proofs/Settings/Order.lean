import RelayGate.Proofs.Settings.Blanks

namespace RelayGate.Settings

/-- The last values of the variables set this percentage under this name: of all that are for the name
it is the one whose own name is the greatest. -/
def Sets (pairs : List (String × String)) (scope : String) (p : Rollout.Percentage) : Prop :=
  ∃ name value n, Stages pairs name value ∧ Rollout.Gives (name, value) scope n ∧
    p = Rollout.clamp n ∧
    ∀ name' value', Stages pairs name' value' → Rollout.upperName (name', value') = scope →
      name' ≤ name

variable {pairs pairs' : List (String × String)}

theorem ofVars_congr_ofList (h : (KeyMap.ofList pairs : Vars) = .ofList pairs') :
    ofVars pairs = ofVars pairs' := by
  rw [ofVars, ofVars, h]

theorem reading?_eq_some_iff {var : String × String} {scope : String} {p : Rollout.Percentage} :
    Rollout.reading? var = some (scope, p) ↔
      Rollout.NamesScope var ∧ ∃ n, Rollout.Gives var scope n ∧ p = Rollout.clamp n := by
  rw [Rollout.reading?, Option.ite_none_right_eq_some, Option.map_eq_some_iff, Rollout.namesScope_iff]
  refine and_congr_right fun _ => exists_congr fun n => ?_
  rw [Rollout.gives_iff, Prod.mk.injEq]
  constructor
  · rintro ⟨hvalue, hscope, rfl⟩
    exact ⟨⟨hscope, hvalue⟩, rfl⟩
  · rintro ⟨⟨hscope, hvalue⟩, rfl⟩
    exact ⟨hvalue, hscope, rfl⟩

theorem get?_gate_ofVars {s : Settings} (h : ofVars pairs = .ok s) (scope : String) :
    (s.gate.bind fun g => g.overrides.get? scope) =
      (KeyMap.ofList ((KeyMap.ofList pairs).entries.filterMap Rollout.reading?)).get? scope := by
  obtain ⟨_, _, gate, _, _, -, -, hgate, -, -, rfl⟩ := ofVars_eq_ok h
  have hmeets : Meets pairs .rollout := exists_ofVars_iff.1 ⟨_, h⟩ .rollout
  obtain rfl := Except.ok.inj ((gate_eq_of_meets hmeets).symm.trans hgate)
  generalize KeyMap.ofList ((KeyMap.ofList pairs).entries.filterMap Rollout.reading?) = overrides
  dsimp only
  split
  · next hempty =>
      have hnone : overrides.entries = [] := List.isEmpty_iff.1 hempty
      rw [Option.bind_none, KeyMap.get?, hnone, List.lookup_nil]
  · rfl

theorem get?_gate_ofVars_eq_some_iff {s : Settings} (h : ofVars pairs = .ok s) {scope : String}
    {p : Rollout.Percentage} :
    (s.gate.bind fun g => g.overrides.get? scope) = some p ↔ Sets pairs scope p := by
  have hmeets : Meets pairs .rollout := exists_ofVars_iff.1 ⟨s, h⟩ .rollout
  rw [get?_gate_ofVars h, KeyMap.get?_ofList_filterMap_eq_some_iff]
  simp only [KeyMap.get?_ofList, reading?_eq_some_iff]
  constructor
  · rintro ⟨name, value, hvalue, ⟨hscope, n, hgives, rfl⟩, hgreatest⟩
    refine ⟨name, value, n, ⟨hvalue, hscope⟩, hgives, rfl, ?_⟩
    rintro name' value' ⟨hvalue', hscope'⟩ hname
    -- No percentage is refused, so that the other variable gives one as well.
    obtain ⟨m, hm⟩ := hmeets name' value' ⟨hvalue', hscope'⟩
    exact hgreatest name' value' _ hvalue' ⟨hscope', m, ⟨hname, hm⟩, rfl⟩
  · rintro ⟨name, value, n, ⟨hvalue, hscope⟩, hgives, rfl, hgreatest⟩
    refine ⟨name, value, hvalue, ⟨hscope, n, hgives, rfl⟩, ?_⟩
    rintro name' value' - hvalue' ⟨hscope', m, hgives', -⟩
    exact hgreatest name' value' ⟨hvalue', hscope'⟩ hgives'.1

/-- The order of variables with different names makes no difference, to settings or to an error. Of
several variables with one name the last one counts alone, and of all that are for one percentage the
one with the greatest name, wherever it stands. -/
theorem ofVars_unordered :
    (∀ pairs pairs' : List (String × String), (pairs.map Prod.fst).Nodup → pairs.Perm pairs' →
      ofVars pairs = ofVars pairs') ∧
    ∀ pairs : List (String × String),
      (KeyMap.lastOnly pairs).Sublist pairs ∧ ((KeyMap.lastOnly pairs).map Prod.fst).Nodup ∧
      (∀ var, var ∈ KeyMap.lastOnly pairs ↔
        ∃ before after, pairs = before ++ var :: after ∧ var.1 ∉ after.map Prod.fst) ∧
      ofVars (KeyMap.lastOnly pairs) = ofVars pairs ∧
      ∀ s, ofVars pairs = .ok s → ∀ scope p,
        (s.gate.bind fun g => g.overrides.get? scope) = some p ↔ Sets pairs scope p := by
  constructor
  · intro pairs pairs' hnames hperm
    exact ofVars_congr_ofList (KeyMap.ofList_perm hperm hnames)
  · intro pairs
    refine ⟨KeyMap.lastOnly_sublist pairs, KeyMap.nodup_lastOnly pairs, ?_, ?_, ?_⟩
    · intro var
      exact KeyMap.mem_lastOnly_iff
    · exact ofVars_congr_ofList (KeyMap.ofList_lastOnly pairs)
    · intro s hs scope p
      exact get?_gate_ofVars_eq_some_iff hs

def crossedVars : List (String × String) :=
  [("kestrel_rollout_percentage_eu", "30"), ("KESTREL_ROLLOUT_PERCENTAGE_EU", "10"),
    ("Kestrel_Rollout_Percentage_EU", "20")]

def refusedVars : List (String × String) :=
  [("kestrel_rollout_percentage", "2.5"), ("Kestrel_Rollout_Percentage", "half")]

theorem ofVars_unordered_crossed :
    (∃ s, ofVars crossedVars = .ok s ∧ ofVars crossedVars.reverse = .ok s ∧
      Sets crossedVars "KESTREL_ROLLOUT_PERCENTAGE_EU" 30) ∧
    ofVars refusedVars = ofVars refusedVars.reverse ∧
      ofVars refusedVars = .error (.rollout (.malformed "KESTREL_ROLLOUT_PERCENTAGE" "half")) := by
  obtain ⟨hperm, hlast⟩ := ofVars_unordered
  obtain ⟨-, -, -, -, hsets⟩ := hlast crossedVars
  have hok : ofVars crossedVars =
      .ok { standard with gate := some (Rollout.Gate.full.override none (some "eu") 30) } := by
    decide +kernel
  have hcrossed : ofVars crossedVars = ofVars crossedVars.reverse :=
    hperm _ _ (by decide) crossedVars.reverse_perm.symm
  refine ⟨⟨_, hok, hcrossed.symm.trans hok, (hsets _ hok _ _).1 (by decide +kernel)⟩, ?_, ?_⟩
  · exact hperm _ _ (by decide) refusedVars.reverse_perm.symm
  · decide +kernel

end RelayGate.Settings
