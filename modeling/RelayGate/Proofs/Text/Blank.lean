import Mathlib.Data.List.DropRight
import RelayGate.Text.Blank

namespace RelayGate.Text

theorem strip_strip (p : Char → Bool) (s : List Char) : strip p (strip p s) = strip p s := by
  have hstart : strip p s <+: s.dropWhile p := List.rdropWhile_prefix p (s.dropWhile p)
  have hfront : (strip p s).dropWhile p = strip p s := by
    rw [List.dropWhile_eq_self_iff]
    intro hs
    rw [hstart.getElem hs]
    exact List.dropWhile_get_zero_not p s (Nat.lt_of_lt_of_le hs hstart.length_le)
  change ((strip p s).dropWhile p).rdropWhile p = strip p s
  rw [hfront]
  exact List.rdropWhile_idempotent p (s.dropWhile p)

theorem strip_eq_nil_iff (p : Char → Bool) (s : List Char) : strip p s = [] ↔ ∀ c ∈ s, p c := by
  change (s.dropWhile p).rdropWhile p = [] ↔ ∀ c ∈ s, p c
  rw [List.rdropWhile_eq_nil_iff, ← List.dropWhile_eq_nil_iff, List.dropWhile_idempotent,
    List.dropWhile_eq_nil_iff]

theorem exists_strip (p : Char → Bool) (s : List Char) : ∃ front back,
    s = front ++ strip p s ++ back ∧ (∀ c ∈ front, p c) ∧ ∀ c ∈ back, p c := by
  refine ⟨s.takeWhile p, (s.dropWhile p).rtakeWhile p, ?_, fun c => List.mem_takeWhile_imp,
    fun c => List.mem_rtakeWhile_imp⟩
  change s = s.takeWhile p ++ (s.dropWhile p).rdropWhile p ++ (s.dropWhile p).rtakeWhile p
  rw [List.append_assoc, List.rdropWhile_append_rtakeWhile, List.takeWhile_append_dropWhile]

theorem dropWhile_append_of_none {p : Char → Bool} {core : List Char} (hne : core ≠ [])
    (h : ∀ c ∈ core, p c = false) (back : List Char) :
    (core ++ back).dropWhile p = core ++ back := by
  obtain ⟨c, cs, rfl⟩ := List.exists_cons_of_ne_nil hne
  exact List.dropWhile_cons_of_neg (by simp [h c List.mem_cons_self])

theorem strip_append {p : Char → Bool} {front core back : List Char} (hfront : ∀ c ∈ front, p c)
    (hcore : ∀ c ∈ core, p c = false) (hback : ∀ c ∈ back, p c) :
    strip p (front ++ core ++ back) = core := by
  rcases eq_or_ne core [] with rfl | hne
  · rw [strip_eq_nil_iff, List.append_nil]
    intro c hc
    exact (List.mem_append.1 hc).elim (hfront c) (hback c)
  · have hrev : ∀ c ∈ core.reverse, p c = false := fun c hc => hcore c (List.mem_reverse.1 hc)
    rw [strip, List.append_assoc, List.dropWhile_append_of_pos hfront,
      dropWhile_append_of_none hne hcore, List.reverse_append,
      List.dropWhile_append_of_pos fun c hc => hback c (List.mem_reverse.1 hc),
      ← List.append_nil core.reverse,
      dropWhile_append_of_none (mt List.reverse_eq_nil_iff.1 hne) hrev, List.append_nil,
      List.reverse_reverse]

theorem length_strip_le (p : Char → Bool) (s : List Char) : (strip p s).length ≤ s.length := by
  obtain ⟨front, back, hs, -, -⟩ := exists_strip p s
  have hlength := congrArg List.length hs
  simp only [List.length_append] at hlength
  omega

theorem strip_ne_cons {p : Char → Bool} {c : Char} (hc : p c) (s r : List Char) :
    strip p s ≠ c :: r := by
  intro h
  have hstrip : strip p (c :: r) = strip p r := by rw [strip, List.dropWhile_cons_of_pos hc, strip]
  have hle := length_strip_le p r
  rw [← hstrip, ← h, strip_strip, h, List.length_cons] at hle
  omega

theorem strip_ne_concat {p : Char → Bool} {c : Char} (hc : p c) (s r : List Char) :
    strip p s ≠ r ++ [c] := by
  intro h
  have hstrip : strip p (r ++ [c]) = strip p r := by
    rw [strip, List.dropWhile_append]
    split
    · next hall => simp [strip, hc, List.isEmpty_iff.1 hall]
    · rw [List.reverse_concat, List.dropWhile_cons_of_pos hc, strip]
  have hle := length_strip_le p r
  rw [← hstrip, ← h, strip_strip, h, List.length_append, List.length_singleton] at hle
  omega

theorem trim_trim (s : String) : trim (trim s) = trim s := by
  rw [trim, trim, String.toList_ofList, strip_strip]

theorem isEmpty_trim_iff (s : String) : (trim s).isEmpty = true ↔ ∀ c ∈ s.toList, isBlank c := by
  rw [← strip_eq_nil_iff, String.isEmpty_iff, trim, String.ofList_eq_empty_iff]

/-- What holds of nothing with blanks in it holds of a trimmed text if it holds of something that has
nothing but blanks around it. -/
theorem toList_trim_iff {P : List Char → Prop} (hP : ∀ s, P s → ∀ c ∈ s, isBlank c = false)
    {text : String} : P (trim text).toList ↔ ∃ front core back : List Char,
      text.toList = front ++ core ++ back ∧ P core ∧ (∀ c ∈ front, isBlank c) ∧
        ∀ c ∈ back, isBlank c := by
  rw [trim, String.toList_ofList]
  constructor
  · intro h
    obtain ⟨front, back, htext, hfront, hback⟩ := exists_strip isBlank text.toList
    exact ⟨front, _, back, htext, h, hfront, hback⟩
  · rintro ⟨front, core, back, htext, h, hfront, hback⟩
    rwa [htext, strip_append hfront (hP core h) hback]

end RelayGate.Text
