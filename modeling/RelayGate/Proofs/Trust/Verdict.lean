import RelayGate.Trust.Attestation

namespace RelayGate

theorem needsDecoys_eq_false {v : Verdict} :
    needsDecoys (some v) = false ↔ v.isValid = true ∧ v.tier = .strong := by
  have ht : decide (v.tier < .strong) = false ↔ v.tier = .strong := by
    cases v.tier <;> decide
  rw [needsDecoys, Bool.or_eq_false_iff, ht, Bool.not_eq_false']

theorem AttestInput.needsDecoys_unverified (i : AttestInput) (allowBypass : Bool) (reason : Reason)
    (time : UInt64) : needsDecoys (some (i.unverified allowBypass reason time)) = true := by
  cases allowBypass <;> rfl

theorem Reply.within_ok {α : Type} {r : Reply α} {timeout : Duration} {a : α}
    (h : r.within timeout = .ok a) : r.delay.millis ≤ timeout.millis ∧ r.answer = .ok a := by
  by_cases hlate : timeout.millis < r.delay.millis
  · rw [within, if_pos hlate] at h
    exact nomatch h
  · rw [within, if_neg hlate] at h
    exact ⟨Nat.not_lt.1 hlate, h⟩

namespace Tier

theorem max_cases (a b : Tier) : max a b = a ∨ max a b = b := by
  by_cases hab : a ≤ b
  · exact .inr (if_pos hab)
  · exact .inl (if_neg hab)

theorem foldl_max_mem (tiers : List Tier) (t : Tier) :
    tiers.foldl max t = t ∨ tiers.foldl max t ∈ tiers := by
  induction tiers generalizing t with
  | nil => exact .inl rfl
  | cons u us ih =>
      rw [List.foldl_cons]
      rcases ih (max t u) with hmax | hmem
      · rw [hmax]
        rcases max_cases t u with ht | hu
        · exact .inl ht
        · rw [hu]
          exact .inr List.mem_cons_self
      · exact .inr (List.mem_cons_of_mem u hmem)

theorem le_antisymm {a b : Tier} (hab : a ≤ b) (hba : b ≤ a) : a = b := by
  have hrank : a.rank = b.rank := Nat.le_antisymm hab hba
  cases a <;> cases b <;> simp_all [rank]

theorem le_max (a b : Tier) : a ≤ max a b ∧ b ≤ max a b := by
  by_cases hab : a ≤ b
  · rw [max, if_pos hab]
    exact ⟨hab, Nat.le_refl _⟩
  · rw [max, if_neg hab]
    exact ⟨Nat.le_refl _, Nat.le_of_lt (Nat.not_le.1 hab)⟩

theorem le_foldl_max (tiers : List Tier) (t : Tier) :
    t ≤ tiers.foldl max t ∧ ∀ u ∈ tiers, u ≤ tiers.foldl max t := by
  induction tiers generalizing t with
  | nil => exact ⟨Nat.le_refl _, fun u hu => absurd hu List.not_mem_nil⟩
  | cons v vs ih =>
      rw [List.foldl_cons]
      obtain ⟨hstart, hrest⟩ := ih (max t v)
      obtain ⟨ht, hv⟩ := le_max t v
      refine ⟨Nat.le_trans ht hstart, ?_⟩
      intro u hu
      rcases List.mem_cons.1 hu with rfl | hu
      · exact Nat.le_trans hv hstart
      · exact hrest u hu

end Tier

end RelayGate
