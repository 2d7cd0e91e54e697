import RelayGate.Proofs.Settings.Acceptance

namespace RelayGate

namespace Settings

def IsBlankValue (value : String) : Prop := ∀ c ∈ value.toList, Text.isBlank c

instance (value : String) : Decidable (IsBlankValue value) :=
  decidable_of_iff (value.toList.all Text.isBlank) List.all_eq_true

def visible (pairs : List (String × String)) : List (String × String) :=
  pairs.filter fun p => ¬ IsBlankValue p.2

/-- Of the percentages the first one that is refused is blank, and nothing is refused before it. -/
structure StumblesOnBlank (pairs : List (String × String)) : Prop where
  timeout : Meets pairs .timeout
  maxAge : Meets pairs .maxAge
  blank : ∃ name value, Stages pairs name value ∧ IsBlankValue value ∧
    ∀ name' value', Stages pairs name' value' → name' < name → Rollout.IsPercentage value'

variable {pairs pairs' : List (String × String)} {name value : String}

theorem trim_eq_empty_iff : Text.trim value = "" ↔ IsBlankValue value := by
  rw [← String.isEmpty_iff, Text.isEmpty_trim_iff, IsBlankValue]

theorem not_isPercentage_of_isBlankValue (h : IsBlankValue value) :
    ¬ Rollout.IsPercentage value := by
  rw [← Rollout.readInt64_eq_none_iff, trim_eq_empty_iff.2 h]
  decide

theorem lookup_visible (h : (pairs.map Prod.fst).Nodup) (name : String) :
    (visible pairs).reverse.lookup name =
      (pairs.reverse.lookup name).filter fun value => ¬ IsBlankValue value := by
  rw [← KeyMap.get?_ofList, ← KeyMap.get?_ofList, visible]
  exact KeyMap.get?_ofList_filter h (fun value => ¬ IsBlankValue value) name

theorem text_visible (h : (pairs.map Prod.fst).Nodup) (name : String) :
    Vars.text (.ofList (visible pairs)) name = Vars.text (.ofList pairs) name := by
  rw [Vars.text_ofList, Vars.text_ofList, lookup_visible h]
  cases pairs.reverse.lookup name with
  | none => rfl
  | some value =>
      by_cases hblank : IsBlankValue value
      · have hdropped : ¬ decide (¬ IsBlankValue value) = true := by
          rwa [decide_eq_true_iff, not_not]
        rw [Option.filter_some, if_neg hdropped, Option.map_some, trim_eq_empty_iff.2 hblank]
        rfl
      · rw [Option.filter_some, if_pos (decide_eq_true hblank)]

theorem stages_visible_iff (h : (pairs.map Prod.fst).Nodup) :
    Stages (visible pairs) name value ↔ Stages pairs name value ∧ ¬ IsBlankValue value := by
  rw [Stages, Stages, lookup_visible h, Option.filter_eq_some_iff, decide_eq_true_iff,
    and_right_comm]

theorem reading?_of_isBlankValue (h : IsBlankValue value) (name : String) :
    Rollout.reading? (name, value) = none := by
  rw [Rollout.reading?, Rollout.readInt64_eq_none_iff.2 (not_isPercentage_of_isBlankValue h)]
  split <;> rfl

theorem filterMap_reading?_visible (es : List (String × String)) :
    (es.filter fun e => ¬ IsBlankValue e.2).filterMap Rollout.reading? =
      es.filterMap Rollout.reading? := by
  rw [List.filterMap_filter]
  apply List.filterMap_congr
  rintro ⟨name, value⟩ -
  by_cases hblank : IsBlankValue value
  · rw [reading?_of_isBlankValue hblank, ite_self]
  · rw [if_pos (decide_eq_true hblank)]

theorem gate_eq_of_meets (h : Meets pairs .rollout) : Vars.gate (.ofList pairs) =
    .ok (let g : Rollout.Gate := ⟨.ofList ((KeyMap.ofList pairs).entries.filterMap Rollout.reading?)⟩
      if g.isEmpty then none else some g) := by
  have hnone := fault?_gate_eq_none_iff.2 h
  rw [fault?_gate, Option.map_eq_none_iff] at hnone
  rw [Vars.gate, Rollout.Gate.ofVars_of_no_complaint hnone]

theorem gate_visible (h : (pairs.map Prod.fst).Nodup)
    (hfirst : ¬ ∃ name value, Stages pairs name value ∧ IsBlankValue value ∧
      ∀ name' value', Stages pairs name' value' → name' < name → Rollout.IsPercentage value') :
    Vars.gate (.ofList (visible pairs)) = Vars.gate (.ofList pairs) := by
  cases hgate : Vars.gate (.ofList pairs) with
  | error e =>
      have hfault : Fault pairs .rollout e :=
        fault?_gate_eq_some_iff.1 (fault?_eq_some_iff.2 hgate)
      rw [← fault?_eq_some_iff, fault?_gate_eq_some_iff]
      cases hfault with
      | rollout hstages hmalformed hbefore =>
          -- What is refused first is not blank, so that it is still there and still the first.
          have hvisible := fun hblank => hfirst ⟨_, _, hstages, hblank, hbefore⟩
          refine .rollout ((stages_visible_iff h).2 ⟨hstages, hvisible⟩) hmalformed ?_
          intro name' value' hstages' hlt
          exact hbefore name' value' ((stages_visible_iff h).1 hstages').1 hlt
  | ok g =>
      have hmeets : Meets pairs .rollout :=
        fault?_gate_eq_none_iff.1 (fault?_eq_none_iff.2 ⟨g, hgate⟩)
      have hmeets' : Meets (visible pairs) .rollout := fun name value hstages =>
        hmeets name value ((stages_visible_iff h).1 hstages).1
      have hentries := KeyMap.entries_ofList_filter h fun value => ¬ IsBlankValue value
      rw [← hgate, gate_eq_of_meets hmeets, gate_eq_of_meets hmeets', visible, hentries,
        filterMap_reading?_visible]

theorem ofVars_congr
    (htext : ∀ name, Vars.text (.ofList pairs) name = Vars.text (.ofList pairs') name)
    (hgate : Meets pairs' .timeout → Meets pairs' .maxAge →
      Vars.gate (.ofList pairs) = Vars.gate (.ofList pairs')) : ofVars pairs = ofVars pairs' := by
  have hflag (name : String) (absent : Bool) :
      Vars.flag (.ofList pairs) name absent = Vars.flag (.ofList pairs') name absent := by
    rw [Vars.flag, Vars.flag, htext]
  have hparsed {α : Type} (read : String → Option α) (name : String) :
      Vars.parsed read (.ofList pairs) name = Vars.parsed read (.ofList pairs') name := by
    rw [Vars.parsed, Vars.parsed, htext]
  have hseconds (name : String) (absent : Duration) :
      Vars.seconds (.ofList pairs) name absent = Vars.seconds (.ofList pairs') name absent := by
    rw [Vars.seconds, Vars.seconds, hparsed]
  have hplay (allowBypass : Bool) (timeout : Duration) :
      Vars.play (.ofList pairs) allowBypass timeout =
        Vars.play (.ofList pairs') allowBypass timeout := by
    simp only [Vars.play, hseconds, hflag, htext]
  simp only [ofVars, hflag, hparsed, hseconds, hplay]
  -- Nothing looks at the gate unless both spans of time have been read.
  refine Except.bind_congr fun timeout htimeout => Except.bind_congr fun play hplay => ?_
  have hspan : Meets pairs' .timeout :=
    fault?_seconds_eq_none_iff.1 (fault?_eq_none_iff.2 ⟨timeout, htimeout⟩)
  have hage : Meets pairs' .maxAge := by
    obtain ⟨maxAge, hmaxAge, -⟩ := Except.bind_eq_ok.1 hplay
    exact fault?_seconds_eq_none_iff.1 (fault?_eq_none_iff.2 ⟨maxAge, hmaxAge⟩)
  rw [hgate hspan hage]
  simp only [Vars.isProduction, Vars.keys, Vars.credentials, Vars.appAttest, hflag, htext]

theorem StumblesOnBlank.exists_error (h : StumblesOnBlank pairs) :
    ∃ name, ofVars pairs = .error (.rollout (.malformed name "")) := by
  obtain ⟨name, value, hstages, hblank, hbefore⟩ := h.blank
  have hfault := Fault.rollout hstages (not_isPercentage_of_isBlankValue hblank) hbefore
  rw [trim_eq_empty_iff.2 hblank] at hfault
  refine ⟨_, ofVars_eq_error_iff.2 ⟨[.timeout, .maxAge], .rollout, _, rfl, ?_, hfault⟩⟩
  intro c hc
  simp only [List.mem_cons, List.not_mem_nil, or_false] at hc
  rcases hc with rfl | rfl
  · exact h.timeout
  · exact h.maxAge

theorem ofVars_visible_ne (h : (pairs.map Prod.fst).Nodup) (name : String) :
    ofVars (visible pairs) ≠ .error (.rollout (.malformed name "")) := by
  intro herror
  obtain ⟨_, concern, _, -, -, hfault⟩ := ofVars_eq_error_iff.1 herror
  generalize he : Settings.Error.rollout (.malformed name "") = e at hfault
  cases hfault with
  | timeout h => cases h <;> exact nomatch he
  | maxAge h => cases h <;> exact nomatch he
  | decoyPolicy => exact nomatch he
  | maxEndpoints => exact nomatch he
  | rollout hstages =>
      simp only [Settings.Error.rollout.injEq, Rollout.Error.malformed.injEq] at he
      exact ((stages_visible_iff h).1 hstages).2 (trim_eq_empty_iff.1 he.2.symm)

/-- Of variables with different names the blank ones may be left out, and the settings or the error stay
as they are, unless a blank one for a percentage is the first thing that is refused. The error is then
that the empty text is no number. -/
theorem ofVars_visible_iff (h : (pairs.map Prod.fst).Nodup) :
    (ofVars (visible pairs) = ofVars pairs ↔ ¬ StumblesOnBlank pairs) ∧
    (StumblesOnBlank pairs → ∃ name, ofVars pairs = .error (.rollout (.malformed name ""))) := by
  refine ⟨⟨?_, ?_⟩, StumblesOnBlank.exists_error⟩
  · intro hsame hstumbles
    obtain ⟨name, herror⟩ := hstumbles.exists_error
    exact ofVars_visible_ne h name (hsame.trans herror)
  · intro hstumbles
    refine ofVars_congr (text_visible h) fun htimeout hmaxAge => gate_visible h fun hblank => ?_
    exact hstumbles ⟨htimeout, hmaxAge, hblank⟩

theorem ofVars_visible_iff_two :
    let behind := [("KESTREL_MAX_ENDPOINTS", "\u3000"), ("kestrel_rollout_percentage_b", ""),
      ("kestrel_rollout_percentage_a", "half")]
    let ahead := [("kestrel_rollout_percentage_c", "half"), ("kestrel_rollout_percentage_b", "\t")]
    (behind.map Prod.fst).Nodup ∧ ¬ StumblesOnBlank behind ∧
      ofVars behind = .error (.rollout (.malformed "KESTREL_ROLLOUT_PERCENTAGE_A" "half")) ∧
      ofVars (visible behind) = ofVars behind ∧
    (ahead.map Prod.fst).Nodup ∧ StumblesOnBlank ahead ∧
      (∃ name, ofVars ahead = .error (.rollout (.malformed name ""))) ∧
      ofVars (visible ahead) =
        .error (.rollout (.malformed "KESTREL_ROLLOUT_PERCENTAGE_C" "half")) := by
  intro behind ahead
  have hnames : (behind.map Prod.fst).Nodup := by decide
  have hnames' : (ahead.map Prod.fst).Nodup := by decide
  have hbehind : ofVars behind =
      .error (.rollout (.malformed "KESTREL_ROLLOUT_PERCENTAGE_A" "half")) := by decide +kernel
  have hleft : visible ahead = [("kestrel_rollout_percentage_c", "half")] := by decide
  have hvisible : ofVars (visible ahead) =
      .error (.rollout (.malformed "KESTREL_ROLLOUT_PERCENTAGE_C" "half")) := by
    rw [hleft]
    decide +kernel
  have hfault : ¬ StumblesOnBlank behind := by
    intro h
    obtain ⟨name, herror⟩ := (ofVars_visible_iff hnames).2 h
    rw [hbehind] at herror
    simp at herror
  have hstumbles : StumblesOnBlank ahead := by
    by_contra h
    have hsame := (ofVars_visible_iff hnames').1.2 h
    rw [hvisible] at hsame
    exact absurd hsame (by decide +kernel)
  exact ⟨hnames, hfault, hbehind, (ofVars_visible_iff hnames).1.2 hfault, hnames', hstumbles,
    (ofVars_visible_iff hnames').2 hstumbles, hvisible⟩

theorem ofVars_blank_refused :
    ¬ ∀ pairs : List (String × String), (pairs.map Prod.fst).Nodup →
      ofVars (visible pairs) = ofVars pairs := by
  intro h
  have hrefused : ofVars [("KESTREL_ROLLOUT_PERCENTAGE", " ")] =
      .error (.rollout (.malformed "KESTREL_ROLLOUT_PERCENTAGE" "")) := by decide +kernel
  have hleft : visible [("KESTREL_ROLLOUT_PERCENTAGE", " ")] = [] := by decide
  have haccepted : ofVars (visible [("KESTREL_ROLLOUT_PERCENTAGE", " ")]) = .ok standard := by
    rw [hleft]
    decide +kernel
  have hsame := h [("KESTREL_ROLLOUT_PERCENTAGE", " ")] (by decide)
  rw [hrefused, haccepted] at hsame
  exact nomatch hsame

end Settings

end RelayGate
