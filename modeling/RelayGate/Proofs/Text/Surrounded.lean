import RelayGate.Proofs.Text.Base64
import RelayGate.Proofs.Text.Blank

namespace RelayGate.Text

namespace Base64

theorem exists_symbol_of_mem_encode {bs : Bytes} {c : Char} (h : c ∈ encode bs) :
    c = '=' ∨ ∃ n, n < 64 ∧ c = symbol standard n := by
  rw [encode] at h
  induction bs using encodeWith.induct with
  | case1 => exact absurd h List.not_mem_nil
  | case2 a =>
      have ha := a.toNat_lt
      simp only [encodeWith, List.cons_append, List.nil_append, List.mem_cons, List.not_mem_nil,
        or_false] at h
      rcases h with rfl | rfl | rfl | rfl
      · exact .inr ⟨_, by omega, rfl⟩
      · exact .inr ⟨_, by omega, rfl⟩
      · exact .inl rfl
      · exact .inl rfl
  | case3 a b =>
      have ha := a.toNat_lt
      have hb := b.toNat_lt
      simp only [encodeWith, List.cons_append, List.nil_append, List.mem_cons, List.not_mem_nil,
        or_false] at h
      rcases h with rfl | rfl | rfl | rfl
      · exact .inr ⟨_, by omega, rfl⟩
      · exact .inr ⟨_, by omega, rfl⟩
      · exact .inr ⟨_, by omega, rfl⟩
      · exact .inl rfl
  | case4 a b c r ih =>
      have ha := a.toNat_lt
      have hb := b.toNat_lt
      have hc := c.toNat_lt
      simp only [encodeWith, List.mem_cons] at h
      rcases h with rfl | rfl | rfl | rfl | h
      · exact .inr ⟨_, by omega, rfl⟩
      · exact .inr ⟨_, by omega, rfl⟩
      · exact .inr ⟨_, by omega, rfl⟩
      · exact .inr ⟨_, by omega, rfl⟩
      · exact ih h

theorem isBlank_symbol : ∀ n, n < 64 → isBlank (symbol standard n) = false := by
  decide

theorem isBlank_of_mem_encode {bs : Bytes} {c : Char} (h : c ∈ encode bs) : isBlank c = false := by
  rcases exists_symbol_of_mem_encode h with rfl | ⟨n, hn, rfl⟩
  · decide
  · exact isBlank_symbol n hn

end Base64

/-- The text is the base 64 of the bytes, with or without blanks around it. -/
def Surrounds (text : String) (bs : Bytes) : Prop :=
  ∃ front back : String, text = front ++ base64 bs ++ back ∧
    (∀ c ∈ front.toList, isBlank c) ∧ ∀ c ∈ back.toList, isBlank c

theorem surrounds_base64 (bs : Bytes) : Surrounds (base64 bs) bs :=
  ⟨"", "", by simp, by simp, by simp⟩

theorem trim_of_surrounds {text : String} {bs : Bytes} (h : Surrounds text bs) :
    trim text = base64 bs := by
  obtain ⟨front, back, rfl, hfront, hback⟩ := h
  rw [trim, String.toList_append, String.toList_append, base64, String.toList_ofList,
    strip_append hfront (fun c => Base64.isBlank_of_mem_encode) hback]

theorem ofBase64?_trim_eq_some_iff {text : String} {bs : Bytes} :
    ofBase64? (trim text) = some bs ↔ Surrounds text bs := by
  rw [ofBase64?_eq_some_iff]
  refine ⟨?_, trim_of_surrounds⟩
  intro h
  obtain ⟨front, back, hs, hfront, hback⟩ := exists_strip isBlank text.toList
  refine ⟨String.ofList front, String.ofList back, ?_, by simpa using hfront, by simpa using hback⟩
  rw [← h, trim, ← String.ofList_append, ← String.ofList_append, ← hs, String.ofList_toList]

end RelayGate.Text
