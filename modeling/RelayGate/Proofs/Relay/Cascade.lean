import RelayGate.Relay.Selection

namespace RelayGate.Lookup

def regionCandidates (explicit : String) (preferred : List String) : List String :=
  (if explicit.isEmpty then [] else [explicit]) ++ preferred ++ Region.adjacent explicit

/-- The query for the region succeeds and returns an active endpoint that is not overloaded. -/
def Available (l : Lookup) (region : String) : Prop :=
  ∃ es, l.realIn region = .ok es ∧ ∃ e ∈ es, e.status = .active ∧ e.load.lt overload = true

def IsFirstAvailable (l : Lookup) (regions : List String) (region : String) : Prop :=
  ∃ before after, regions = before ++ region :: after ∧ l.Available region ∧
    ∀ r ∈ before, ¬ l.Available r

/-- What a query for the region brings; one that fails brings nothing. -/
def found (l : Lookup) (region : String) : List Endpoint :=
  match l.realIn region with
  | .ok es => es
  | .error _ => []

variable {l : Lookup} {region explicit : String} {regions preferred : List String}

theorem isAvailable_eq_any (l : Lookup) (region : String) :
    l.isAvailable region = (l.found region).any fun e => e.isActive && e.load.lt overload := by
  rw [isAvailable, found]
  cases l.realIn region <;> rfl

theorem isAvailable_iff : l.isAvailable region = true ↔ l.Available region := by
  rw [isAvailable, Available]
  split
  · next es hes => simp [hes, Endpoint.isActive]
  · next e he => simp [he]

theorem isAvailable_eq_false_iff : l.isAvailable region = false ↔ ¬ l.Available region := by
  rw [← isAvailable_iff, Bool.not_eq_true]

theorem firstAvailable_eq_find? (l : Lookup) (regions : List String) :
    l.firstAvailable regions = regions.find? l.isAvailable := by
  induction regions with
  | nil => rfl
  | cons region regions ih =>
      by_cases h : l.isAvailable region = true
      · rw [firstAvailable, if_pos h, List.find?_cons_of_pos h]
      · rw [firstAvailable, if_neg h, List.find?_cons_of_neg h, ih]

theorem chooseRegion_eq_find? (l : Lookup) (explicit : String) (preferred : List String) :
    l.chooseRegion explicit preferred =
      ((regionCandidates explicit preferred).find? l.isAvailable).getD Region.fallback := by
  have hrest : l.chooseRegion explicit preferred =
      if !explicit.isEmpty && l.isAvailable explicit then explicit
      else ((preferred ++ Region.adjacent explicit).find? l.isAvailable).getD Region.fallback := by
    rw [chooseRegion, List.find?_append, ← firstAvailable_eq_find?, ← firstAvailable_eq_find?]
    cases l.firstAvailable preferred with
    | some region => rfl
    | none => cases l.firstAvailable (Region.adjacent explicit) <;> rfl
  rw [hrest, regionCandidates]
  cases hempty : explicit.isEmpty with
  | true => rfl
  | false => cases havailable : l.isAvailable explicit <;> simp [havailable]

theorem isFirstAvailable_of_find? (h : regions.find? l.isAvailable = some region) :
    l.IsFirstAvailable regions region := by
  obtain ⟨havailable, before, after, hregions, hbefore⟩ := List.find?_eq_some_iff_append.1 h
  refine ⟨before, after, hregions, isAvailable_iff.1 havailable, ?_⟩
  intro r hr
  exact isAvailable_eq_false_iff.1 (by simpa using hbefore r hr)

theorem find?_of_isFirstAvailable (h : l.IsFirstAvailable regions region) :
    regions.find? l.isAvailable = some region := by
  obtain ⟨before, after, hregions, havailable, hbefore⟩ := h
  apply List.find?_eq_some_iff_append.2
  refine ⟨isAvailable_iff.2 havailable, before, after, hregions, ?_⟩
  intro r hr
  simpa using isAvailable_eq_false_iff.2 (hbefore r hr)

theorem find?_eq_none_iff : regions.find? l.isAvailable = none ↔ ∀ r ∈ regions, ¬ l.Available r := by
  rw [List.find?_eq_none]
  constructor
  · intro h r hr
    exact isAvailable_eq_false_iff.1 (by simpa using h r hr)
  · intro h r hr
    simpa using isAvailable_eq_false_iff.2 (h r hr)

theorem chooseRegion_eq_iff : l.chooseRegion explicit preferred = region ↔
    l.IsFirstAvailable (regionCandidates explicit preferred) region ∨
      region = Region.fallback ∧ ∀ r ∈ regionCandidates explicit preferred, ¬ l.Available r := by
  rw [chooseRegion_eq_find?]
  cases hfind : (regionCandidates explicit preferred).find? l.isAvailable with
  | some first =>
      have hfirst := isFirstAvailable_of_find? hfind
      rw [Option.getD_some]
      constructor
      · rintro rfl
        exact .inl hfirst
      · rintro (hregion | ⟨-, hnone⟩)
        · exact Option.some.inj (hfind.symm.trans (find?_of_isFirstAvailable hregion))
        · exact nomatch hfind.symm.trans (find?_eq_none_iff.2 hnone)
  | none =>
      rw [Option.getD_none]
      constructor
      · rintro rfl
        exact .inr ⟨rfl, find?_eq_none_iff.1 hfind⟩
      · rintro (hregion | ⟨hfallback, -⟩)
        · exact nomatch hfind.symm.trans (find?_of_isFirstAvailable hregion)
        · exact hfallback.symm

theorem chooseRegion_congr {other : Lookup} (h : ∀ region, other.found region = l.found region)
    (explicit : String) (preferred : List String) :
    other.chooseRegion explicit preferred = l.chooseRegion explicit preferred := by
  have hsame : other.isAvailable = l.isAvailable := by
    funext region
    rw [isAvailable_eq_any, isAvailable_eq_any, h]
  rw [chooseRegion_eq_find?, chooseRegion_eq_find?, hsame]

theorem find?_append_available (h : l.Available region) (before after : List String) :
    (before ++ region :: after).find? l.isAvailable = (before ++ [region]).find? l.isAvailable := by
  have hregion := isAvailable_iff.2 h
  rw [List.find?_append, List.find?_append, List.find?_cons_of_pos hregion,
    List.find?_cons_of_pos hregion]

theorem chooseRegion_of_agree {before after after' : List String} {explicit' : String}
    {preferred' : List String} (h : l.Available region)
    (hlist : regionCandidates explicit preferred = before ++ region :: after)
    (hlist' : regionCandidates explicit' preferred' = before ++ region :: after') :
    l.chooseRegion explicit' preferred' = l.chooseRegion explicit preferred := by
  rw [chooseRegion_eq_find?, chooseRegion_eq_find?, hlist, hlist',
    find?_append_available h before after, find?_append_available h before after']

/-- The region is the first available one of the list, or the fallback where the list has none, and so
it is available unless the list has none. A query that fails has the effect of one that brings
nothing, and what stands behind an available region has no effect, however much it is. -/
theorem chooseRegion_first (l : Lookup) (explicit : String) (preferred : List String) :
    let regions := regionCandidates explicit preferred
    let chosen := l.chooseRegion explicit preferred
    (∀ region, chosen = region ↔ l.IsFirstAvailable regions region ∨
      region = "us-east-1" ∧ ∀ r ∈ regions, ¬ l.Available r) ∧
    (¬ l.Available chosen → chosen = "us-east-1" ∧ ∀ r ∈ regions, ¬ l.Available r) ∧
    (∀ other : Lookup, (∀ region, other.found region = l.found region) →
      other.chooseRegion explicit preferred = chosen) ∧
    (∀ before region after, regions = before ++ region :: after → l.Available region →
      ∀ explicit' preferred' after', regionCandidates explicit' preferred' = before ++ region :: after' →
        l.chooseRegion explicit' preferred' = chosen) ∧
    ∀ before region after, preferred = before ++ region :: after → l.Available region →
      ∀ after', l.chooseRegion explicit (before ++ region :: after') = chosen := by
  intro regions chosen
  refine ⟨fun region => chooseRegion_eq_iff, ?_,
    fun other hother => chooseRegion_congr hother explicit preferred, ?_, ?_⟩
  · intro hunavailable
    rcases chooseRegion_eq_iff.1 (rfl : chosen = chosen) with ⟨-, -, -, havailable, -⟩ | hnone
    · exact absurd havailable hunavailable
    · exact hnone
  · intro before region after hlist havailable explicit' preferred' after' hlist'
    exact chooseRegion_of_agree havailable hlist hlist'
  · rintro before region after rfl havailable after'
    have hlist (rest : List String) : regionCandidates explicit (before ++ region :: rest) =
        ((if explicit.isEmpty then [] else [explicit]) ++ before) ++
          region :: (rest ++ Region.adjacent explicit) := by
      simp [regionCandidates]
    exact chooseRegion_of_agree havailable (hlist after) (hlist after')

end RelayGate.Lookup
