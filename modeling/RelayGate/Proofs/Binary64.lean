import RelayGate.Binary64
import RelayGate.Proofs.Numeral

namespace RelayGate.Binary64

open Numeral

theorem roundHalfEven_mul (q : Nat) {d : Nat} (h : 0 < d) : roundHalfEven (q * d) d = q := by
  simp [roundHalfEven, Nat.mul_div_cancel q h, h]

theorem units_pos {m : Nat} (h : m ≠ 0) : 0 < units m := by
  unfold units
  split
  · omega
  · exact Nat.mul_pos (by omega) (Nat.two_pow_pos _)

theorem units_shift (m : Nat) :
    ∃ q, units m = q * 2 ^ ((units m).log2 - 52) ∧ ((units m).log2 - 52) * 2 ^ 52 + q = m := by
  rcases Nat.lt_or_ge m (2 ^ 52) with h | h
  · have hu : units m = m := if_pos h
    have hs : m.log2 - 52 = 0 := by
      rcases Nat.eq_zero_or_pos m with rfl | hm
      · rfl
      · have hl := (Nat.log2_lt (by omega)).2 h
        omega
    rw [hu, hs]
    exact ⟨m, by simp, by simp⟩
  · have hu : units m = (2 ^ 52 + m % 2 ^ 52) * 2 ^ (m / 2 ^ 52 - 1) := if_neg (Nat.not_lt.2 h)
    have hl : (units m).log2 = 52 + (m / 2 ^ 52 - 1) := by
      have h0 : units m ≠ 0 := Nat.ne_of_gt (units_pos (by omega))
      apply Nat.le_antisymm
      · have hlt : units m < 2 ^ (52 + (m / 2 ^ 52 - 1) + 1) := by
          rw [hu, show 52 + (m / 2 ^ 52 - 1) + 1 = 53 + (m / 2 ^ 52 - 1) by omega, Nat.pow_add]
          exact Nat.mul_lt_mul_of_pos_right (by omega) (Nat.two_pow_pos _)
        exact Nat.lt_succ_iff.1 ((Nat.log2_lt h0).2 hlt)
      · apply (Nat.le_log2 h0).2
        rw [hu, Nat.pow_add]
        exact Nat.mul_le_mul_right _ (by omega)
    rw [hl, Nat.add_sub_cancel_left]
    exact ⟨2 ^ 52 + m % 2 ^ 52, hu, by omega⟩

theorem nearest_eq {n d m : Nat} (hm : m < infinite) (hd : 0 < d)
    (h : n * 2 ^ 1074 = units m * d) : nearest n d = m := by
  obtain ⟨q, hq, hs⟩ := units_shift m
  have hu : units m * d / d = units m := Nat.mul_div_cancel _ hd
  simp only [nearest, h, hu]
  generalize hk : (units m).log2 - 52 = k at hq hs ⊢
  have hr : roundHalfEven (units m * d) (d * 2 ^ k) = q := by
    rw [hq, Nat.mul_assoc, Nat.mul_comm (2 ^ k) d]
    exact roundHalfEven_mul q (Nat.mul_pos hd (Nat.two_pow_pos k))
  rw [hr, hs]
  exact Nat.min_eq_left (Nat.le_of_lt hm)

theorem foldl_digits (ds : List (Fin 10)) (a : Nat) :
    ds.foldl (fun n d => n * 10 + d.val) a = a * 10 ^ ds.length + value ds := by
  induction ds generalizing a with
  | nil => simp [value]
  | cons d ds ih =>
      have hv : value (d :: ds) = d.val * 10 ^ ds.length + value ds := by
        simpa [value] using ih d.val
      rw [List.foldl_cons, ih, hv, List.length_cons, Nat.pow_succ, Nat.add_mul, Nat.mul_assoc,
        Nat.mul_comm 10, Nat.add_assoc]

theorem digitsOf_add_pow (k b : Nat) (h : b < 10 ^ k) :
    ∃ ds, digitsOf (b + 10 ^ k) = 1 :: ds ∧ ds.length = k ∧ value ds = b := by
  induction k generalizing b with
  | zero =>
      obtain rfl : b = 0 := by simpa using h
      exact ⟨[], by decide, rfl, rfl⟩
  | succ k ih =>
      rw [Nat.pow_succ] at h
      obtain ⟨ds, hd, hl, hv⟩ := ih (b / 10) (by omega)
      have hq : (b + 10 ^ (k + 1)) / 10 = b / 10 + 10 ^ k := by rw [Nat.pow_succ]; omega
      have hp : 0 < 10 ^ k := Nat.pow_pos (by decide)
      refine ⟨ds ++ [⟨(b + 10 ^ (k + 1)) % 10, Nat.mod_lt _ (by decide)⟩], ?_, by simp [hl], ?_⟩
      · rw [digitsOf_of_ge (by rw [Nat.pow_succ]; omega), hq, hd]
        rfl
      · rw [value_append, hv]
        simp only [List.foldl_cons, List.foldl_nil, Nat.pow_succ]
        omega

theorem filterMap_tail_toDigits {n : Nat} {d : Fin 10} {ds : List (Fin 10)}
    (h : digitsOf n = d :: ds) : (Nat.toDigits 10 n).tail.filterMap digit? = ds := by
  have hd : digit? ∘ digitChar = some := by
    funext d
    exact digit?_digitChar d
  rw [← map_digitChar_digitsOf, h, List.map_cons, List.tail_cons, List.filterMap_map, hd,
    List.filterMap_some]

/-- The digits of a binary fraction of `k` places are those of a decimal one of `k` places. -/
theorem digits_expansion (negative : Bool) (k u : Nat) :
    let n : Numeral := ⟨negative, u / 2 ^ k,
      (Nat.toDigits 10 (u % 2 ^ k * 5 ^ k + 10 ^ k)).tail.filterMap digit?, none⟩
    n.digits = u * 5 ^ k ∧ n.scale = -(k : Int) := by
  intro n
  have hten : (10 : Nat) ^ k = 2 ^ k * 5 ^ k := by rw [← Nat.mul_pow]
  have hb : u % 2 ^ k * 5 ^ k < 10 ^ k := by
    rw [hten]
    exact Nat.mul_lt_mul_of_pos_right (Nat.mod_lt _ (Nat.two_pow_pos k)) (Nat.pow_pos (by decide))
  obtain ⟨ds, hd, hl, hv⟩ := digitsOf_add_pow k _ hb
  have hf : n.fraction = ds := filterMap_tail_toDigits hd
  have hu : u / 2 ^ k * 2 ^ k + u % 2 ^ k = u := Nat.div_add_mod' u (2 ^ k)
  constructor
  · calc n.digits = u / 2 ^ k * 10 ^ ds.length + value ds := by
          rw [Numeral.digits, hf, foldl_digits]
      _ = (u / 2 ^ k * 2 ^ k + u % 2 ^ k) * 5 ^ k := by rw [hl, hv, hten, Nat.add_mul, Nat.mul_assoc]
      _ = u * 5 ^ k := by rw [hu]
  · rw [Numeral.scale, hf, hl]
    simp [n]

theorem ofMagnitude_magnitude (x : Binary64) : ofMagnitude x.negative x.magnitude = x := by
  obtain ⟨negative, m, hm⟩ := x
  simp only [ofMagnitude, mk.injEq, true_and]
  omega

theorem le_log2_expansion (k : Nat) {u : Nat} (h : 0 < u) :
    u * 5 ^ k ≠ 0 ∧ k ≤ (u * 5 ^ k).log2 := by
  have h0 : u * 5 ^ k ≠ 0 := Nat.ne_of_gt (Nat.mul_pos h (Nat.pow_pos (by decide)))
  refine ⟨h0, (Nat.le_log2 h0).2 ?_⟩
  calc 2 ^ k ≤ 5 ^ k := Nat.pow_le_pow_left (by decide) k
    _ ≤ u * 5 ^ k := Nat.le_mul_of_pos_left _ h

theorem nearestDecimal_expansion {m : Nat} (h0 : m ≠ 0) (hm : m < infinite) :
    nearestDecimal (units m * 5 ^ 1074) (-(1074 : Nat)) = m := by
  obtain ⟨hd, hl⟩ := le_log2_expansion 1074 (units_pos h0)
  have hsmall : ¬ (units m * 5 ^ 1074 = 0 ∨
      (-(1074 : Nat) : Int) < -((units m * 5 ^ 1074).log2 + 400 : Nat)) := by
    rintro (h | h)
    · exact hd h
    · omega
  have hr (k : Nat) : units m * 5 ^ k * 2 ^ k = units m * 10 ^ (-(-(k : Int))).toNat := by
    rw [Int.neg_neg, Int.toNat_natCast, Nat.mul_assoc, ← Nat.mul_pow]
  rw [nearestDecimal, if_neg hsmall, if_neg (by omega), if_neg (by omega)]
  exact nearest_eq hm (Nat.pow_pos (by decide)) (hr 1074)

theorem digits_exact (x : Binary64) : x.exact.digits = units x.magnitude * 5 ^ 1074 := by
  have h := (digits_expansion x.negative 1074 (units x.magnitude)).1
  rw [exact]
  exact h

theorem scale_exact (x : Binary64) : x.exact.scale = -(1074 : Nat) := by
  have h := (digits_expansion x.negative 1074 (units x.magnitude)).2
  rw [exact]
  exact h

theorem ofNumeral_exact {x : Binary64} (h0 : x.magnitude ≠ 0) (h : x.isFinite) :
    ofNumeral x.exact = some x := by
  have hm : x.magnitude < infinite := by simpa [isFinite] using h
  rw [ofNumeral, digits_exact, scale_exact, nearestDecimal_expansion h0 hm]
  simp only [hm, if_true, Option.some.injEq]
  exact ofMagnitude_magnitude x

theorem ofNumeral_toNumeral {x : Binary64} (h : x.isFinite) : ofNumeral x.toNumeral = some x := by
  unfold toNumeral
  split
  next h0 =>
    have hx := ofMagnitude_magnitude x
    rw [h0] at hx
    simpa [ofNumeral, nearestDecimal, Numeral.digits, infinite] using hx
  next h0 =>
    cases hf : x.candidates.find? fun n => ofNumeral n == some x with
    | none => exact ofNumeral_exact h0 h
    | some n => simpa using List.find?_some hf

theorem isFinite_of_ofNumeral {n : Numeral} {x : Binary64} (h : ofNumeral n = some x) :
    x.isFinite := by
  simp only [ofNumeral] at h
  split at h
  next hm =>
    obtain rfl := Option.some.inj h
    exact decide_eq_true (Nat.lt_of_le_of_lt (Nat.min_le_left _ _) hm)
  next => simp at h

theorem roundHalfEven_le (n d : Nat) : roundHalfEven n d ≤ n / d + 1 := by
  unfold roundHalfEven
  split
  · omega
  · split
    · omega
    · have := Nat.mod_lt (n / d) Nat.two_pos
      omega

theorem significand_le (n d : Nat) :
    roundHalfEven n (d * 2 ^ ((n / d).log2 - 52)) ≤ 2 * 2 ^ 52 := by
  generalize hs : (n / d).log2 - 52 = s
  have hlt : n / d < 2 ^ s * 2 ^ 53 := by
    rw [← Nat.pow_add]
    exact Nat.lt_of_lt_of_le Nat.lt_log2_self (Nat.pow_le_pow_right Nat.two_pos (by omega))
  have hq : n / (d * 2 ^ s) < 2 ^ 53 := by
    rw [← Nat.div_div_eq_div_mul]
    exact Nat.div_lt_of_lt_mul hlt
  have := roundHalfEven_le n (d * 2 ^ s)
  omega

theorem log2_scaled_le {n d : Nat} (h : n ≤ d) (k : Nat) :
    (n * 2 ^ k / d).log2 ≤ k := by
  have hle : n * 2 ^ k / d ≤ 2 ^ k :=
    Nat.div_le_of_le_mul (Nat.mul_le_mul_right (2 ^ k) h)
  by_cases h0 : n * 2 ^ k / d = 0
  · rw [h0, Nat.log2_zero]
    exact Nat.zero_le k
  · apply Nat.lt_succ_iff.1
    apply (Nat.log2_lt h0).2
    exact Nat.lt_of_le_of_lt hle (Nat.pow_lt_pow_right Nat.one_lt_two (Nat.lt_succ_self k))

theorem isFinite_ofRatio {n d : Nat} (h : n ≤ d) : (ofRatio n d).isFinite := by
  have hl := log2_scaled_le h 1074
  have hs := significand_le (n * 2 ^ 1074) d
  have hn : nearest n d < infinite := by
    simp only [nearest]
    apply Nat.lt_of_le_of_lt (Nat.min_le_left _ _)
    apply Nat.lt_of_le_of_lt (Nat.add_le_add_left hs _)
    rw [infinite]
    omega
  exact decide_eq_true (Nat.lt_of_le_of_lt (Nat.min_le_left _ _) hn)

theorem rank_injective : Function.Injective rank := by
  rintro ⟨negative, m, hm⟩ ⟨negative', m', hm'⟩ h
  cases negative <;> cases negative' <;>
    simp only [rank, if_true, Bool.false_eq_true, if_false] at h
  case false.false | true.true =>
    obtain rfl : m = m' := by omega
    rfl
  case false.true | true.false => omega

theorem units_le_succ (m : Nat) : units m ≤ units (m + 1) := by
  unfold units
  by_cases hm : m + 1 < 2 ^ 52
  · rw [if_pos (by omega), if_pos hm]
    exact Nat.le_succ m
  · rw [if_neg hm]
    by_cases hlast : m < 2 ^ 52
    · rw [if_pos hlast]
      exact Nat.le_trans (by omega) (Nat.le_mul_of_pos_right _ (Nat.two_pow_pos _))
    · rw [if_neg hlast]
      by_cases hcarry : m % 2 ^ 52 + 1 < 2 ^ 52
      · rw [show (m + 1) / 2 ^ 52 = m / 2 ^ 52 by omega]
        exact Nat.mul_le_mul_right _ (by omega)
      · -- The significand is full: the next number has the next exponent.
        have hpow : 2 ^ ((m + 1) / 2 ^ 52 - 1) = 2 * 2 ^ (m / 2 ^ 52 - 1) := by
          rw [← Nat.pow_add_one']
          congr 1
          omega
        rw [hpow, ← Nat.mul_assoc]
        exact Nat.mul_le_mul_right _ (by omega)

theorem units_le_units {m n : Nat} (h : m ≤ n) : units m ≤ units n := by
  induction h with
  | refl => exact Nat.le_refl _
  | step _ ih => exact Nat.le_trans ih (units_le_succ _)

theorem le_of_rank_le {x y : Binary64} (hx : x.isNaN = false) (hy : y.isNaN = false)
    (h : x.rank ≤ y.rank) : x.le y = true := by
  obtain ⟨negative, m, hm⟩ := x
  obtain ⟨negative', m', hm'⟩ := y
  have hunits : m ≤ m' → units m ≤ units m' := units_le_units
  have hunits' : m' ≤ m → units m' ≤ units m := units_le_units
  simp only [le, hx, hy, Bool.not_false, Bool.true_and, decide_eq_true_eq]
  cases negative <;> cases negative' <;>
    simp only [rank, signedUnits, if_true, Bool.false_eq_true, if_false] at h ⊢ <;> omega

end RelayGate.Binary64
