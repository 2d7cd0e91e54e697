import RelayGate.Proofs.Text.Blank
import RelayGate.Rollout

namespace RelayGate.Rollout

/-- There is something in the text, and no underscore at its ends. -/
structure IsPart (s : String) : Prop where
  ne_empty : s ≠ ""
  ne_underscore_append : ∀ r, s ≠ "_" ++ r
  ne_append_underscore : ∀ r, s ≠ r ++ "_"

theorem toList_underscore : "_".toList = ['_'] := by decide

theorem isPart_normalForm {s : String} (h : normalForm s ≠ "") : IsPart (normalForm s) := by
  refine ⟨h, ?_, ?_⟩
  · intro r hr
    rw [normalForm, ← String.toList_inj, String.toList_ofList, String.toList_append,
      toList_underscore] at hr
    refine Text.strip_ne_cons ?_ _ r.toList hr
    exact beq_self_eq_true '_'
  · intro r hr
    rw [normalForm, ← String.toList_inj, String.toList_ofList, String.toList_append,
      toList_underscore] at hr
    refine Text.strip_ne_concat ?_ _ r.toList hr
    exact beq_self_eq_true '_'

theorem exists_of_append_eq_underscore_append {a b r : String} (ha : a ≠ "")
    (h : a ++ b = "_" ++ r) : ∃ r', a = "_" ++ r' := by
  rw [← String.toList_inj, String.toList_append, String.toList_append, toList_underscore] at h
  rcases List.append_eq_cons_iff.1 h with ⟨hnil, -⟩ | ⟨cs, hcs, -⟩
  · exact absurd (String.toList_inj.1 hnil) ha
  · refine ⟨String.ofList cs, ?_⟩
    rw [← String.toList_inj, hcs, String.toList_append, toList_underscore, String.toList_ofList]
    rfl

theorem exists_of_append_eq_append_underscore {a b r : String} (hb : b ≠ "")
    (h : a ++ b = r ++ "_") : ∃ r', b = r' ++ "_" := by
  rw [← String.toList_inj, String.toList_append, String.toList_append, toList_underscore] at h
  rcases List.append_eq_append_iff.1 h with ⟨cs, -, hcs⟩ | ⟨cs, -, hcs⟩
  · refine ⟨String.ofList cs, ?_⟩
    rw [← String.toList_inj, hcs, String.toList_append, toList_underscore, String.toList_ofList]
  · rcases List.append_eq_singleton_iff.1 hcs.symm with ⟨-, hlast⟩ | ⟨-, hnil⟩
    · exact ⟨"", String.toList_inj.1 (hlast.trans (by decide))⟩
    · exact absurd (String.toList_inj.1 hnil) hb

theorem IsPart.join {a b : String} (ha : IsPart a) (hb : IsPart b) : IsPart (a ++ "_" ++ b) := by
  refine ⟨?_, ?_, ?_⟩
  · intro h
    exact hb.ne_empty (String.append_eq_empty_iff.1 h).2
  · intro r hr
    rw [String.append_assoc] at hr
    obtain ⟨r', hr'⟩ := exists_of_append_eq_underscore_append ha.ne_empty hr
    exact ha.ne_underscore_append r' hr'
  · intro r hr
    obtain ⟨r', hr'⟩ := exists_of_append_eq_append_underscore hb.ne_empty hr
    exact hb.ne_append_underscore r' hr'

theorem IsPart.ne_empty_of_join {a b : String} (h : IsPart (a ++ "_" ++ b)) : a ≠ "" ∧ b ≠ "" := by
  constructor
  · rintro rfl
    exact h.ne_underscore_append b rfl
  · rintro rfl
    exact h.ne_append_underscore a (String.append_empty)

def scopeBehind (part : String) : String := base ++ "_" ++ part

@[simp]
theorem scopeName_nil : scopeName [] = base := rfl

@[simp]
theorem scopeName_singleton (a : String) : scopeName [a] = scopeBehind a := rfl

@[simp]
theorem scopeName_pair (a b : String) : scopeName [a, b] = scopeBehind (a ++ "_" ++ b) := by
  change base ++ "_" ++ a ++ "_" ++ b = base ++ "_" ++ (a ++ "_" ++ b)
  simp only [String.append_assoc]

theorem scopeBehind_inj {a b : String} : scopeBehind a = scopeBehind b ↔ a = b :=
  String.append_right_inj (base ++ "_")

theorem scopeBehind_ne_base (a : String) : scopeBehind a ≠ base := by
  intro h
  rw [scopeBehind, String.append_assoc] at h
  have hempty : "_" ++ a = "" := (String.append_right_inj base).1 (h.trans String.append_empty.symm)
  exact absurd (String.append_eq_empty_iff.1 hempty).1 (by decide)

variable {version region : String}

theorem scopesFor_both (hv : normalForm version ≠ "") (hr : normalForm region ≠ "") :
    Gate.scopesFor version region =
      [scopeBehind (normalForm version ++ "_" ++ normalForm region),
        scopeBehind (normalForm version), scopeBehind (normalForm region), base] := by
  simp [Gate.scopesFor, hv, hr]

theorem scopesFor_version (hv : normalForm version ≠ "") (hr : normalForm region = "") :
    Gate.scopesFor version region = [scopeBehind (normalForm version), base] := by
  simp [Gate.scopesFor, hv, hr]

theorem scopesFor_region (hv : normalForm version = "") (hr : normalForm region ≠ "") :
    Gate.scopesFor version region = [scopeBehind (normalForm region), base] := by
  simp [Gate.scopesFor, hv, hr]

theorem scopesFor_neither (hv : normalForm version = "") (hr : normalForm region = "") :
    Gate.scopesFor version region = [base] := by
  simp [Gate.scopesFor, hv, hr]

theorem scopeBehind_mem_cases {a : String} (h : scopeBehind a ∈ Gate.scopesFor version region) :
    (normalForm version ≠ "" ∧ normalForm region ≠ "" ∧
      a = normalForm version ++ "_" ++ normalForm region) ∨
    (normalForm version ≠ "" ∧ a = normalForm version) ∨
    normalForm region ≠ "" ∧ a = normalForm region := by
  by_cases hv : normalForm version = "" <;> by_cases hr : normalForm region = ""
  · rw [scopesFor_neither hv hr, List.mem_singleton] at h
    exact absurd h (scopeBehind_ne_base a)
  · rw [scopesFor_region hv hr] at h
    simp only [List.mem_cons, List.not_mem_nil, or_false, scopeBehind_inj, scopeBehind_ne_base] at h
    exact .inr (.inr ⟨hr, h⟩)
  · rw [scopesFor_version hv hr] at h
    simp only [List.mem_cons, List.not_mem_nil, or_false, scopeBehind_inj, scopeBehind_ne_base] at h
    exact .inr (.inl ⟨hv, h⟩)
  · rw [scopesFor_both hv hr] at h
    simp only [List.mem_cons, List.not_mem_nil, or_false, scopeBehind_inj, scopeBehind_ne_base] at h
    rcases h with h | h | h
    · exact .inl ⟨hv, hr, h⟩
    · exact .inr (.inl ⟨hv, h⟩)
    · exact .inr (.inr ⟨hr, h⟩)

theorem isPart_of_mem {a : String} (h : scopeBehind a ∈ Gate.scopesFor version region) : IsPart a := by
  rcases scopeBehind_mem_cases h with ⟨hv, hr, rfl⟩ | ⟨hv, rfl⟩ | ⟨hr, rfl⟩
  · exact (isPart_normalForm hv).join (isPart_normalForm hr)
  · exact isPart_normalForm hv
  · exact isPart_normalForm hr

theorem scopeBehind_mem_iff {a : String} (ha : IsPart a) :
    scopeBehind a ∈ Gate.scopesFor version region ↔ normalForm version = a ∨
      normalForm region = a ∨ normalForm version ++ "_" ++ normalForm region = a := by
  constructor
  · intro h
    rcases scopeBehind_mem_cases h with ⟨-, -, rfl⟩ | ⟨-, rfl⟩ | ⟨-, rfl⟩
    · exact .inr (.inr rfl)
    · exact .inl rfl
    · exact .inr (.inl rfl)
  · rintro (rfl | rfl | rfl)
    · by_cases hr : normalForm region = ""
      · simp [scopesFor_version ha.ne_empty hr]
      · simp [scopesFor_both ha.ne_empty hr]
    · by_cases hv : normalForm version = ""
      · simp [scopesFor_region hv ha.ne_empty]
      · simp [scopesFor_both hv ha.ne_empty]
    · obtain ⟨hv, hr⟩ := ha.ne_empty_of_join
      simp [scopesFor_both hv hr]

end RelayGate.Rollout
