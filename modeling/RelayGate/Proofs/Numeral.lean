import RelayGate.Numeral

namespace RelayGate.Numeral

def digitsOf (n : Nat) : List (Fin 10) := (Nat.toDigits 10 n).filterMap digit?

theorem digit?_digitChar (d : Fin 10) : digit? (digitChar d) = some d := by
  revert d
  decide

theorem digitChar_eq (d : Fin 10) : digitChar d = Nat.digitChar d.val := by
  revert d
  decide

theorem digitChar_ne_minus (d : Fin 10) : digitChar d ≠ '-' := by
  revert d
  decide

theorem digitsOf_of_lt {n : Nat} (h : n < 10) : digitsOf n = [⟨n, h⟩] := by
  rw [digitsOf, Nat.toDigits_of_lt_base h, ← digitChar_eq ⟨n, h⟩]
  simp [digit?_digitChar]

theorem digitsOf_of_ge {n : Nat} (h : 10 ≤ n) :
    digitsOf n = digitsOf (n / 10) ++ [⟨n % 10, Nat.mod_lt n (by decide)⟩] := by
  rw [digitsOf, Nat.toDigits_of_base_le (by decide) h, List.filterMap_append, digitsOf,
    ← digitChar_eq ⟨n % 10, Nat.mod_lt n (by decide)⟩]
  simp [digit?_digitChar]

theorem map_digitChar_digitsOf (n : Nat) : (digitsOf n).map digitChar = Nat.toDigits 10 n := by
  induction n using Nat.strongRecOn with
  | ind n ih =>
      rcases Nat.lt_or_ge n 10 with h | h
      · rw [digitsOf_of_lt h, Nat.toDigits_of_lt_base h]
        simp [digitChar_eq]
      · rw [digitsOf_of_ge h, List.map_append, ih (n / 10) (by omega),
          Nat.toDigits_of_base_le (by decide) h]
        simp [digitChar_eq]

theorem value_append (ds es : List (Fin 10)) :
    value (ds ++ es) = es.foldl (fun n d => n * 10 + d.val) (value ds) := by
  simp [value]

theorem value_digitsOf (n : Nat) : value (digitsOf n) = n := by
  induction n using Nat.strongRecOn with
  | ind n ih =>
      rcases Nat.lt_or_ge n 10 with h | h
      · simp [digitsOf_of_lt h, value]
      · rw [digitsOf_of_ge h, value_append, ih (n / 10) (by omega)]
        simp only [List.foldl_cons, List.foldl_nil]
        omega

theorem digitsOf_ne_nil (n : Nat) : digitsOf n ≠ [] := by
  rcases Nat.lt_or_ge n 10 with h | h
  · simp [digitsOf_of_lt h]
  · simp [digitsOf_of_ge h]

theorem exists_digitsOf (n : Nat) : ∃ d ds, digitsOf n = d :: ds :=
  List.exists_cons_of_ne_nil (digitsOf_ne_nil n)

theorem head?_digitsOf {n : Nat} (h : 0 < n) : (digitsOf n).head? ≠ some 0 := by
  induction n using Nat.strongRecOn with
  | ind n ih =>
      rcases Nat.lt_or_ge n 10 with hn | hn
      · rw [digitsOf_of_lt hn]
        simp only [List.head?_cons, ne_eq, Option.some.injEq, Fin.ext_iff, Fin.val_zero]
        omega
      · obtain ⟨d, ds, hd⟩ := exists_digitsOf (n / 10)
        have hh := ih (n / 10) (by omega) (by omega)
        rw [hd] at hh
        rw [digitsOf_of_ge hn, hd]
        exact hh

def StopsDigits (s : List Char) : Prop := ∀ c ∈ s.head?, digit? c = none

/-- Nothing in front could belong to a numeral before it. -/
def StopsNumeral (s : List Char) : Prop :=
  ∀ c ∈ s.head?, digit? c = none ∧ c ≠ '.' ∧ c ≠ 'e' ∧ c ≠ 'E'

theorem StopsNumeral.stopsDigits {s : List Char} (h : StopsNumeral s) : StopsDigits s :=
  fun c hc => (h c hc).1

theorem scanDigits_append (ds : List (Fin 10)) {s : List Char} (h : StopsDigits s) :
    scanDigits (ds.map digitChar ++ s) = (ds, s) := by
  induction ds with
  | nil =>
      cases s with
      | nil => rfl
      | cons c r => simp [scanDigits, h c rfl]
  | cons d ds ih => simp [scanDigits, digit?_digitChar, ih]

theorem stopsDigits_renderExponent (e : Option Int) {s : List Char} (h : StopsDigits s) :
    StopsDigits (renderExponent e ++ s) := by
  cases e with
  | none => exact h
  | some e =>
      intro c hc
      obtain rfl : c = 'e' := by simpa [renderExponent, eq_comm] using hc
      decide

theorem stopsDigits_renderFraction (ds : List (Fin 10)) {s : List Char} (h : StopsDigits s) :
    StopsDigits (renderFraction ds ++ s) := by
  cases ds with
  | nil => exact h
  | cons d ds =>
      intro c hc
      obtain rfl : c = '.' := by simpa [renderFraction, eq_comm] using hc
      decide

theorem scanWhole_append (n : Nat) {s : List Char} (h : StopsDigits s) :
    scanWhole (Nat.toDigits 10 n ++ s) = some (n, s) := by
  rcases Nat.eq_zero_or_pos n with rfl | hn
  · simp [scanWhole]
  · have hs : scanDigits (Nat.toDigits 10 n ++ s) = (digitsOf n, s) := by
      rw [← map_digitChar_digitsOf]
      exact scanDigits_append _ h
    obtain ⟨d, ds, hd⟩ := exists_digitsOf n
    -- A number that is not zero starts with another digit than zero.
    have hz : d ≠ 0 := by simpa [hd] using head?_digitsOf hn
    have hc : digitChar d ≠ '0' := by
      intro he
      apply hz
      have h0 := digit?_digitChar d
      rw [he] at h0
      exact (Option.some.inj h0).symm
    have hr : Nat.toDigits 10 n ++ s = digitChar d :: (ds.map digitChar ++ s) := by
      rw [← map_digitChar_digitsOf, hd]
      rfl
    rw [hr, hd] at hs
    rw [hr, scanWhole, hs]
    · simp only [← hd, value_digitsOf]
    · simpa using hc

theorem scanFraction_append (ds : List (Fin 10)) {s : List Char} (hd : StopsDigits s)
    (hp : ∀ c ∈ s.head?, c ≠ '.') : scanFraction (renderFraction ds ++ s) = some (ds, s) := by
  cases ds with
  | nil =>
      cases s with
      | nil => rfl
      | cons c r =>
          have hc : c ≠ '.' := hp c rfl
          simp [renderFraction, scanFraction, hc]
  | cons d ds =>
      simp only [renderFraction, List.cons_append, scanFraction]
      rw [scanDigits_append (d :: ds) hd]

theorem scanPower_append (negative : Bool) (n : Nat) {s : List Char} (h : StopsDigits s) :
    scanPower negative (Nat.toDigits 10 n ++ s) =
      some (some (if negative then -(n : Int) else n), s) := by
  have hs := scanDigits_append (digitsOf n) h
  rw [map_digitChar_digitsOf] at hs
  obtain ⟨d, ds, hd⟩ := exists_digitsOf n
  rw [hd] at hs
  rw [scanPower, hs]
  simp only [← hd, value_digitsOf]

theorem scanExponent_append (e : Option Int) {s : List Char} (h : StopsNumeral s) :
    scanExponent (renderExponent e ++ s) = some (e, s) := by
  cases e with
  | none =>
      cases s with
      | nil => rfl
      | cons c r =>
          obtain ⟨-, -, he, hE⟩ := h c rfl
          simp [renderExponent, scanExponent, he, hE]
  | some e =>
      rcases Int.lt_or_le e 0 with he | he
      · simp only [renderExponent, he, if_true, List.cons_append, scanExponent]
        rw [scanPower_append true e.natAbs h.stopsDigits]
        simp only [if_true, Option.some.injEq, Prod.mk.injEq, and_true]
        omega
      · simp only [renderExponent, Int.not_lt.2 he, if_false, List.cons_append, scanExponent]
        rw [scanPower_append false e.natAbs h.stopsDigits]
        simp only [Bool.false_eq_true, if_false, Option.some.injEq, Prod.mk.injEq, and_true]
        omega

theorem scanSign_append (negative : Bool) (n : Nat) (s : List Char) :
    scanSign ((if negative then ['-'] else []) ++ (Nat.toDigits 10 n ++ s)) =
      (negative, Nat.toDigits 10 n ++ s) := by
  cases negative with
  | true => rfl
  | false =>
      obtain ⟨d, ds, hd⟩ := exists_digitsOf n
      have hc : digitChar d ≠ '-' := digitChar_ne_minus d
      rw [← map_digitChar_digitsOf, hd]
      simp [scanSign, hc]

theorem scan_render (n : Numeral) {s : List Char} (h : StopsNumeral s) :
    scan (n.render ++ s) = some (n, s) := by
  obtain ⟨negative, whole, fraction, exponent⟩ := n
  have hdot : ∀ c ∈ (renderExponent exponent ++ s).head?, c ≠ '.' := by
    cases exponent with
    | none => exact fun c hc => (h c hc).2.1
    | some e =>
        intro c hc
        obtain rfl : c = 'e' := by simpa [renderExponent, eq_comm] using hc
        decide
  have hexp := stopsDigits_renderExponent exponent h.stopsDigits
  simp only [render, List.append_assoc, scan, scanSign_append]
  rw [scanWhole_append whole (stopsDigits_renderFraction fraction hexp)]
  simp only [Option.bind_eq_bind, Option.bind_some]
  rw [scanFraction_append fraction hexp hdot]
  simp only [Option.bind_some]
  rw [scanExponent_append exponent h]
  rfl

end RelayGate.Numeral
