import RelayGate.Proofs.Rollout.Override
import RelayGate.Proofs.Text.Decimal

namespace RelayGate.Rollout

def upperName (var : String × String) : String := String.ofList (Text.upper var.1.toList)

/-- The variable names no scope at all. -/
def IsForeign (var : String × String) : Prop :=
  upperName var ≠ base ∧ ∀ rest, upperName var ≠ base ++ "_" ++ rest

/-- The variable gives the scope of this name a percentage. -/
def Gives (var : String × String) (name : String) (n : Int) : Prop :=
  upperName var = name ∧ Text.Denotes var.2 n ∧ -2 ^ 63 ≤ n ∧ n < 2 ^ 63

def reading? (var : String × String) : Option (String × Percentage) :=
  if isScope (upperName var) then
    (Text.readInt64 (Text.trim var.2)).map fun n => (upperName var, clamp n)
  else none

def IsReadable (var : String × String) : Prop :=
  isScope (upperName var) = true → (Text.readInt64 (Text.trim var.2)).isSome = true

theorem isScope_iff {name : String} :
    isScope name = true ↔ name = base ∨ ∃ rest, name = scopeBehind rest := by
  rw [isScope, Bool.or_eq_true, beq_iff_eq, List.isPrefixOf_iff_prefix]
  refine or_congr_right ?_
  constructor
  · rintro ⟨rest, hrest⟩
    refine ⟨String.ofList rest, ?_⟩
    rw [scopeBehind, ← String.toList_inj, String.toList_append, String.toList_ofList, hrest]
  · rintro ⟨rest, rfl⟩
    exact ⟨rest.toList, String.toList_append.symm⟩

theorem isForeign_iff {var : String × String} :
    IsForeign var ↔ isScope (upperName var) = false := by
  rw [← Bool.not_eq_true, isScope_iff, not_or, not_exists]
  rfl

theorem gives_iff {var : String × String} {name : String} {n : Int} : Gives var name n ↔
    upperName var = name ∧ Text.readInt64 (Text.trim var.2) = some n := by
  rw [Text.readInt64_trim_eq_some_iff]
  rfl

instance (var : String × String) : Decidable (IsForeign var) :=
  decidable_of_iff _ isForeign_iff.symm

instance (var : String × String) (name : String) (n : Int) : Decidable (Gives var name n) :=
  decidable_of_iff _ gives_iff.symm

namespace Gate

theorem addVar_eq (g : Gate) (var : String × String) : g.addVar var =
    if isScope (upperName var) then
      match Text.readInt64 (Text.trim var.2) with
      | some n => .ok (g.set (upperName var) (clamp n))
      | none => .error (.malformed (upperName var) (Text.trim var.2))
    else .ok g := rfl

theorem addVar_of_isReadable {var : String × String} (h : IsReadable var) (g : Gate) :
    g.addVar var = .ok (match reading? var with
      | some e => g.set e.1 e.2
      | none => g) := by
  rw [addVar_eq, reading?]
  by_cases hscope : isScope (upperName var) = true
  · obtain ⟨n, hn⟩ := Option.isSome_iff_exists.1 (h hscope)
    rw [if_pos hscope, if_pos hscope, hn]
    rfl
  · rw [if_neg hscope, if_neg hscope]

theorem foldlM_addVar {vars : List (String × String)} (h : ∀ var ∈ vars, IsReadable var)
    (g : Gate) : vars.foldlM addVar g =
      .ok ⟨(vars.filterMap reading?).foldl (fun m e => m.insert e.1 e.2) g.overrides⟩ := by
  induction vars generalizing g with
  | nil => rfl
  | cons var vars ih =>
      rw [List.foldlM_cons, addVar_of_isReadable (h var List.mem_cons_self), List.filterMap_cons]
      refine (ih (fun v hv => h v (List.mem_cons_of_mem var hv)) _).trans ?_
      cases reading? var <;> rfl

theorem ofVars_of_isReadable {vars : List (String × String)} (h : ∀ var ∈ vars, IsReadable var) :
    ofVars vars = .ok ⟨.ofList (vars.filterMap reading?)⟩ :=
  foldlM_addVar h full

end Gate

theorem reading?_of_isForeign {var : String × String} (h : IsForeign var) : reading? var = none := by
  rw [reading?, isForeign_iff.1 h]
  rfl

theorem isReadable_of_isForeign {var : String × String} (h : IsForeign var) : IsReadable var := by
  rw [IsReadable, isForeign_iff.1 h]
  exact fun hfalse => absurd hfalse Bool.false_ne_true

inductive Scope where
  | both
  | version
  | region
  | overall
deriving DecidableEq

namespace Scope

def name (v r : String) : Scope → String
  | both => base ++ "_" ++ v ++ "_" ++ r
  | version => base ++ "_" ++ v
  | region => base ++ "_" ++ r
  | overall => base

/-- All scopes, the most specific one first. -/
def ranked : List Scope := [both, version, region, overall]

variable {v r : String}

theorem isScope_name (v r : String) (s : Scope) : isScope (s.name v r) = true := by
  rw [isScope_iff]
  cases s with
  | both => exact .inr ⟨_, scopeName_pair v r⟩
  | version => exact .inr ⟨v, rfl⟩
  | region => exact .inr ⟨r, rfl⟩
  | overall => exact .inl rfl

theorem map_name_ranked (v r : String) : ranked.map (name v r) =
    [scopeBehind (v ++ "_" ++ r), scopeBehind v, scopeBehind r, base] := by
  rw [← scopeName_pair]
  rfl

theorem mem_ranked (s : Scope) : s ∈ ranked := by
  cases s <;> decide

theorem name_injective (hne : v ≠ r) : Function.Injective (name v r) := by
  -- Both parts joined are longer than each of them.
  have hjoined (s : String) (hs : s.length < v.length + 1 + r.length) : v ++ "_" ++ r ≠ s := by
    rintro rfl
    rw [String.length_append, String.length_append] at hs
    exact Nat.lt_irrefl _ hs
  have hv : v ++ "_" ++ r ≠ v := hjoined v (by omega)
  have hr : v ++ "_" ++ r ≠ r := hjoined r (by omega)
  have hnodup : (ranked.map (name v r)).Nodup := by
    simp [map_name_ranked, scopeBehind_inj, scopeBehind_ne_base, hv, hr, hne]
  intro s t h
  exact List.inj_on_of_nodup_map hnodup s.mem_ranked t.mem_ranked h

theorem scopesFor_eq {version region : String} (hv : normalForm version ≠ "")
    (hr : normalForm region ≠ "") : Gate.scopesFor version region =
      ranked.map (name (normalForm version) (normalForm region)) := by
  rw [scopesFor_both hv hr, map_name_ranked]

def override (version region : String) (g : Gate) : Scope × Int → Gate
  | (both, n) => g.override (some version) (some region) n
  | (Scope.version, n) => g.override (some version) none n
  | (Scope.region, n) => g.override none (some region) n
  | (overall, n) => g.override none none n

def entry (v r : String) (s : Scope × Int) : String × Percentage := (s.1.name v r, clamp s.2)

theorem override_eq_set (version region : String) (g : Gate) (s : Scope × Int) :
    override version region g s =
      g.set (s.1.name (normalForm version) (normalForm region)) (clamp s.2) := by
  obtain ⟨scope, n⟩ := s
  cases scope <;> rfl

theorem foldl_override (version region : String) (settings : List (Scope × Int)) :
    settings.foldl (override version region) .full =
      ⟨.ofList (settings.map (entry (normalForm version) (normalForm region)))⟩ := by
  rw [KeyMap.ofList, List.foldl_map]
  exact List.foldl_hom Gate.mk fun m s => override_eq_set version region ⟨m⟩ s

def decided (settings : List (Scope × Int)) : Int :=
  ((ranked.findSome? fun s => settings.lookup s).map fun n => max 0 (min n 100)).getD 100

theorem nodup_map_entry (hne : v ≠ r) {settings : List (Scope × Int)}
    (h : (settings.map Prod.fst).Nodup) : ((settings.map (entry v r)).map Prod.fst).Nodup := by
  have hnames : (settings.map (entry v r)).map Prod.fst = (settings.map Prod.fst).map (name v r) := by
    rw [List.map_map, List.map_map]
    rfl
  rw [hnames]
  exact h.map (name_injective hne)

theorem lookup_map_entry (hne : v ≠ r) (settings : List (Scope × Int)) (s : Scope) :
    (settings.map (entry v r)).lookup (s.name v r) = (settings.lookup s).map clamp := by
  induction settings with
  | nil => rfl
  | cons e settings ih =>
      rw [List.map_cons, KeyMap.lookup_cons, List.lookup_cons, ih]
      change (if name v r s = name v r e.1 then some (clamp e.2) else _) = _
      by_cases hs : s = e.1
      · rw [if_pos (congrArg (name v r) hs), beq_iff_eq.2 hs]
        rfl
      · rw [if_neg fun heq => hs (name_injective hne heq), beq_eq_false_iff_ne.2 hs]

theorem percentage_ofList (hv : v ≠ "") (hr : r ≠ "") (hne : v ≠ r) {settings : List (Scope × Int)}
    (h : (settings.map Prod.fst).Nodup) {version region : String} (hversion : normalForm version = v)
    (hregion : normalForm region = r) :
    (((⟨.ofList (settings.map (entry v r))⟩ : Gate).percentage version region).val : Int) =
      decided settings := by
  subst hversion hregion
  have hget (s : Scope) :
      (KeyMap.ofList (settings.map (entry (normalForm version) (normalForm region)))).get?
        (s.name (normalForm version) (normalForm region)) = (settings.lookup s).map clamp := by
    rw [KeyMap.get?_ofList_of_nodup (nodup_map_entry hne h), lookup_map_entry hne]
  have hfirst : (ranked.findSome? fun s => (settings.lookup s).map clamp) =
      (ranked.findSome? fun s => settings.lookup s).map clamp := List.map_findSome?.symm
  rw [Gate.percentage, scopesFor_eq hv hr, List.findSome?_map, decided]
  simp only [Function.comp_def, hget, hfirst]
  cases ranked.findSome? fun s => settings.lookup s with
  | none => rfl
  | some n => exact val_clamp n

end Scope

theorem isReadable_of_gives {var : String × String} {name : String} {n : Int} (h : Gives var name n) :
    IsReadable var := by
  intro _
  rw [(gives_iff.1 h).2]
  rfl

theorem reading?_of_gives {v r : String} {var : String × String} {s : Scope × Int}
    (h : Gives var (s.1.name v r) s.2) : reading? var = some (Scope.entry v r s) := by
  obtain ⟨hname, hvalue⟩ := gives_iff.1 h
  rw [reading?, hname, Scope.isScope_name, if_pos rfl, hvalue]
  rfl

theorem isReadable_of_mem {v r : String} {own : List (String × String)}
    {settings : List (Scope × Int)}
    (h : List.Forall₂ (fun var s => Gives var (s.1.name v r) s.2) own settings)
    {var : String × String} (hvar : var ∈ own) : IsReadable var := by
  induction h with
  | nil => exact absurd hvar List.not_mem_nil
  | cons hgives _ ih =>
      rcases List.mem_cons.1 hvar with rfl | hvar
      · exact isReadable_of_gives hgives
      · exact ih hvar

theorem filterMap_reading?_of_gives {v r : String} {own : List (String × String)}
    {settings : List (Scope × Int)}
    (h : List.Forall₂ (fun var s => Gives var (s.1.name v r) s.2) own settings) :
    own.filterMap reading? = settings.map (Scope.entry v r) := by
  induction h with
  | nil => rfl
  | cons hgives _ ih => rw [List.filterMap_cons_some (reading?_of_gives hgives), ih, List.map_cons]

/-- For a version and a region with different normal forms, any choice of their scopes may have
percentages. If variables give each of these scopes its percentage, in any spelling, any order and
among any other variables, they make the gate that overrides of the scopes make in any order; and for
all that have the same normal forms the most specific one of the scopes decides. -/
theorem ofVars_eq_overrides {version region : String} (hv : normalForm version ≠ "")
    (hr : normalForm region ≠ "") (hne : normalForm version ≠ normalForm region)
    {settings calls : List (Scope × Int)} (honce : (settings.map Prod.fst).Nodup)
    (hcalls : calls.Perm settings) {own others vars : List (String × String)}
    (hown : List.Forall₂
      (fun var s => Gives var (s.1.name (normalForm version) (normalForm region)) s.2) own settings)
    (hothers : ∀ var ∈ others, IsForeign var) (hvars : vars.Perm (own ++ others)) :
    ∃ g, Gate.ofVars vars = .ok g ∧ calls.foldl (Scope.override version region) .full = g ∧
      ∀ version' region', normalForm version' = normalForm version →
        normalForm region' = normalForm region →
          ((g.percentage version' region').val : Int) = Scope.decided settings := by
  have hreadable : ∀ var ∈ vars, IsReadable var := by
    intro var hvar
    rcases List.mem_append.1 (hvars.mem_iff.1 hvar) with hvar | hvar
    · exact isReadable_of_mem hown hvar
    · exact isReadable_of_isForeign (hothers var hvar)
  have hentries : (vars.filterMap reading?).Perm
      (settings.map (Scope.entry (normalForm version) (normalForm region))) := by
    have hnone : others.filterMap reading? = [] :=
      List.filterMap_eq_nil_iff.2 fun var hvar => reading?_of_isForeign (hothers var hvar)
    have hperm := hvars.filterMap reading?
    rwa [List.filterMap_append, filterMap_reading?_of_gives hown, hnone, List.append_nil] at hperm
  have hnodup := Scope.nodup_map_entry hne honce
  refine ⟨⟨.ofList (settings.map (Scope.entry (normalForm version) (normalForm region)))⟩, ?_, ?_, ?_⟩
  · rw [Gate.ofVars_of_isReadable hreadable, KeyMap.ofList_perm hentries.symm hnodup]
  · rw [Scope.foldl_override, KeyMap.ofList_perm (hcalls.symm.map _) hnodup]
  · intro version' region' hversion hregion
    exact Scope.percentage_ofList hv hr hne honce hversion hregion

def spelledVars : List (String × String) :=
  [("PATH", ""), ("Kestrel_Rollout_Percentage", "\u00A00150"),
    ("kestrel_rollout_percentage_v2_1_straße_1", "\t+40 "), ("KESTREL_ROLLOUT_PERCENTAGES", "half"),
    ("KESTREL_ROLLOUT_PERCENTAGE_Strasse_1", "-5")]

theorem ofVars_eq_overrides_spelled :
    normalForm "v2.1" = "V2_1" ∧ normalForm "straße-1" = "STRASSE_1" ∧
    ∃ g, Gate.ofVars spelledVars = .ok g ∧
      [(Scope.region, -5), (Scope.overall, 150), (Scope.both, 40)].foldl
        (Scope.override "v2.1" "straße-1") .full = g ∧
      (g.percentage "V2 1" "STRASSE.1").val = 40 := by
  have hv : normalForm "v2.1" = "V2_1" := by decide +kernel
  have hr : normalForm "straße-1" = "STRASSE_1" := by decide +kernel
  have hcalls : [(Scope.region, -5), (Scope.overall, 150), (Scope.both, 40)].Perm
      [(Scope.both, (40 : Int)), (Scope.region, -5), (Scope.overall, 150)] := by decide
  let own : List (String × String) := [("kestrel_rollout_percentage_v2_1_straße_1", "\t+40 "),
    ("KESTREL_ROLLOUT_PERCENTAGE_Strasse_1", "-5"), ("Kestrel_Rollout_Percentage", "\u00A00150")]
  let others : List (String × String) := [("PATH", ""), ("KESTREL_ROLLOUT_PERCENTAGES", "half")]
  have hown : List.Forall₂
      (fun var s => Gives var (s.1.name (normalForm "v2.1") (normalForm "straße-1")) s.2) own
      [(Scope.both, 40), (Scope.region, -5), (Scope.overall, 150)] := by
    rw [hv, hr]
    exact .cons (by decide +kernel) (.cons (by decide +kernel) (.cons (by decide +kernel) .nil))
  have hothers : ∀ var ∈ others, IsForeign var := by decide +kernel
  have hvars : spelledVars.Perm (own ++ others) := by decide +kernel
  obtain ⟨g, hread, hset, hanswer⟩ := ofVars_eq_overrides (by rw [hv]; decide) (by rw [hr]; decide)
    (by rw [hv, hr]; decide) (by decide) hcalls hown hothers hvars
  have hdecided : Scope.decided [(.both, 40), (.region, -5), (.overall, 150)] = 40 := by decide
  have hboth := hanswer "V2 1" "STRASSE.1" (by decide +kernel) (by decide +kernel)
  rw [hdecided] at hboth
  exact ⟨hv, hr, g, hread, hset, by exact_mod_cast hboth⟩

end RelayGate.Rollout
