import RelayGate.Proofs.Rollout.Variables

namespace RelayGate.Rollout

/-- The name of the variable is the base, or the base with an underscore behind it and any text. -/
def NamesScope (var : String × String) : Prop :=
  upperName var = base ∨ ∃ rest, upperName var = base ++ "_" ++ rest

/-- The value is a numeral of a signed number of 64 bits, blanks around it apart. -/
def IsPercentage (value : String) : Prop :=
  ∃ n, Text.Denotes value n ∧ -2 ^ 63 ≤ n ∧ n < 2 ^ 63

def complaint? (var : String × String) : Option Error :=
  if isScope (upperName var) && (Text.readInt64 (Text.trim var.2)).isNone then
    some (.malformed (upperName var) (Text.trim var.2))
  else none

theorem namesScope_iff {var : String × String} : NamesScope var ↔ isScope (upperName var) = true :=
  isScope_iff.symm

theorem isSome_readInt64_iff {value : String} :
    (Text.readInt64 (Text.trim value)).isSome = true ↔ IsPercentage value := by
  rw [Option.isSome_iff_exists]
  exact exists_congr fun n => Text.readInt64_trim_eq_some_iff

theorem readInt64_eq_none_iff {value : String} :
    Text.readInt64 (Text.trim value) = none ↔ ¬ IsPercentage value := by
  rw [← isSome_readInt64_iff, Bool.not_eq_true, Option.isSome_eq_false_iff, Option.isNone_iff_eq_none]

theorem complaint?_eq_some_iff {var : String × String} {e : Error} : complaint? var = some e ↔
    NamesScope var ∧ ¬ IsPercentage var.2 ∧ e = .malformed (upperName var) (Text.trim var.2) := by
  rw [namesScope_iff, ← readInt64_eq_none_iff, complaint?]
  cases isScope (upperName var) <;> cases Text.readInt64 (Text.trim var.2) <;> simp [eq_comm]

theorem complaint?_eq_none_iff {var : String × String} :
    complaint? var = none ↔ (NamesScope var → IsPercentage var.2) := by
  rw [namesScope_iff, ← isSome_readInt64_iff, complaint?]
  cases isScope (upperName var) <;> cases Text.readInt64 (Text.trim var.2) <;> simp

theorem isReadable_iff {var : String × String} : IsReadable var ↔ complaint? var = none := by
  rw [complaint?_eq_none_iff, namesScope_iff, ← isSome_readInt64_iff]
  rfl

namespace Gate

theorem addVar_of_complaint {var : String × String} {e : Error} (h : complaint? var = some e)
    (g : Gate) : g.addVar var = .error e := by
  obtain ⟨hscope, hvalue, rfl⟩ := complaint?_eq_some_iff.1 h
  rw [addVar_eq, if_pos (namesScope_iff.1 hscope), readInt64_eq_none_iff.2 hvalue]

theorem foldlM_addVar_of_complaint {vars : List (String × String)} {e : Error}
    (h : vars.findSome? complaint? = some e) (g : Gate) : vars.foldlM addVar g = .error e := by
  induction vars generalizing g with
  | nil => exact nomatch h
  | cons var vars ih =>
      rw [List.foldlM_cons]
      rw [List.findSome?_cons] at h
      cases hvar : complaint? var with
      | some d =>
          rw [hvar] at h
          obtain rfl := Option.some.inj h
          rw [addVar_of_complaint hvar]
          rfl
      | none =>
          rw [hvar] at h
          rw [addVar_of_isReadable (isReadable_iff.2 hvar)]
          exact ih h _

theorem ofVars_of_no_complaint {vars : List (String × String)}
    (h : vars.findSome? complaint? = none) :
    ofVars vars = .ok ⟨.ofList (vars.filterMap reading?)⟩ :=
  ofVars_of_isReadable fun var hvar =>
    isReadable_iff.2 (List.findSome?_eq_none_iff.1 h var hvar)

theorem ofVars_eq_error_iff {vars : List (String × String)} {e : Error} :
    ofVars vars = .error e ↔ vars.findSome? complaint? = some e := by
  constructor
  · intro h
    cases hfind : vars.findSome? complaint? with
    | none =>
        rw [ofVars_of_no_complaint hfind] at h
        exact nomatch h
    | some d =>
        rw [ofVars, foldlM_addVar_of_complaint hfind] at h
        exact congrArg some (Except.error.inj h)
  · intro h
    exact foldlM_addVar_of_complaint h full

end Gate

end RelayGate.Rollout
