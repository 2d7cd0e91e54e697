import Mathlib.Data.List.Induction
import RelayGate.Proofs.Text.Blank
import RelayGate.Text.Decimal

namespace RelayGate.Text

def IsDigitsOf (s : List Char) (n : Nat) : Prop :=
  ∃ zeros, s = List.replicate zeros '0' ++ Nat.toDigits 10 n

/-- A plus sign may stand in front of a number, a minus sign stands in front of its negative. -/
inductive IsNumeralOf : List Char → Int → Prop
  | unsigned {s : List Char} {n : Nat} (h : IsDigitsOf s n) : IsNumeralOf s n
  | plus {s : List Char} {n : Nat} (h : IsDigitsOf s n) : IsNumeralOf ('+' :: s) n
  | minus {s : List Char} {n : Nat} (h : IsDigitsOf s n) : IsNumeralOf ('-' :: s) (-n)

def Denotes (text : String) (n : Int) : Prop :=
  ∃ front numeral back : List Char, text.toList = front ++ numeral ++ back ∧ IsNumeralOf numeral n ∧
    (∀ c ∈ front, isBlank c) ∧ ∀ c ∈ back, isBlank c

/-- The text is a numeral of the number without a minus sign, with or without blanks around it. -/
def Counts (text : String) (n : Nat) : Prop :=
  ∃ front numeral back : List Char, text.toList = front ++ numeral ++ back ∧
    (IsDigitsOf numeral n ∨ ∃ ds, numeral = '+' :: ds ∧ IsDigitsOf ds n) ∧
    (∀ c ∈ front, isBlank c) ∧ ∀ c ∈ back, isBlank c

/-- The text is a numeral of the number without a minus sign, and 64 bits are enough for it. -/
def IsWord (text : String) (n : Nat) : Prop :=
  (IsDigitsOf text.toList n ∨ ∃ ds, text.toList = '+' :: ds ∧ IsDigitsOf ds n) ∧ n < 2 ^ 64

theorem digitsValue_eq (acc : Nat) (ds : List Char) :
    digitsValue acc ds = Nat.ofDigitChars 10 ds acc := by
  simp only [digitsValue, Nat.ofDigitChars, digitValue, Nat.mul_comm]

theorem digitValue_lt {c : Char} (h : c.isDigit = true) : digitValue c < 10 := by
  have hhigh : c.toNat ≤ 57 := (Char.isDigit_iff_toNat.1 h).2
  change c.toNat - 48 < 10
  omega

theorem toDigits_digitValue {c : Char} (h : c.isDigit = true) :
    Nat.toDigits 10 (digitValue c) = [c] := by
  have hlow : 48 ≤ c.toNat := (Char.isDigit_iff_toNat.1 h).1
  have hsame : Nat.digitChar (digitValue c) = c := by
    apply Char.toNat_inj.1
    rw [Nat.toNat_digitChar_of_lt_ten (digitValue_lt h)]
    change 48 + (c.toNat - 48) = c.toNat
    omega
  rw [Nat.toDigits_of_lt_base (digitValue_lt h), hsame]

theorem IsDigitsOf.concat {s : List Char} {n : Nat} (h : IsDigitsOf s n) {c : Char}
    (hc : c.isDigit = true) : IsDigitsOf (s ++ [c]) (10 * n + digitValue c) := by
  obtain ⟨zeros, rfl⟩ := h
  rcases Nat.eq_zero_or_pos n with rfl | hn
  · refine ⟨zeros + 1, ?_⟩
    rw [Nat.mul_zero, Nat.zero_add, Nat.toDigits_zero, toDigits_digitValue hc, List.replicate_succ']
  · refine ⟨zeros, ?_⟩
    rw [← Nat.toDigits_append_toDigits (by decide) hn (digitValue_lt hc), toDigits_digitValue hc,
      List.append_assoc]

theorem isDigitsOf_of_all {s : List Char} (hne : s ≠ []) (h : ∀ c ∈ s, c.isDigit = true) :
    IsDigitsOf s (digitsValue 0 s) := by
  induction s using List.reverseRecOn with
  | nil => exact absurd rfl hne
  | append_singleton s c ih =>
      have hc : c.isDigit = true := h c (List.mem_append_right s (List.mem_singleton_self c))
      have hvalue : digitsValue 0 (s ++ [c]) = 10 * digitsValue 0 s + digitValue c := by
        simp [digitsValue, Nat.mul_comm]
      rw [hvalue]
      rcases eq_or_ne s [] with rfl | hs
      · refine ⟨0, ?_⟩
        change [c] = Nat.toDigits 10 (10 * 0 + digitValue c)
        rw [Nat.mul_zero, Nat.zero_add, toDigits_digitValue hc]
      · exact (ih hs fun d hd => h d (List.mem_append_left [c] hd)).concat hc

theorem IsDigitsOf.ne_nil {s : List Char} {n : Nat} (h : IsDigitsOf s n) : s ≠ [] := by
  obtain ⟨zeros, rfl⟩ := h
  exact List.append_ne_nil_of_right_ne_nil _ Nat.toDigits_ne_nil

theorem IsDigitsOf.isDigit {s : List Char} {n : Nat} (h : IsDigitsOf s n) {c : Char} (hc : c ∈ s) :
    c.isDigit = true := by
  obtain ⟨zeros, rfl⟩ := h
  rcases List.mem_append.1 hc with hc | hc
  · rw [List.eq_of_mem_replicate hc]
    decide
  · exact Nat.isDigit_of_mem_toDigits (by decide) (by decide) hc

theorem IsDigitsOf.value {s : List Char} {n : Nat} (h : IsDigitsOf s n) : digitsValue 0 s = n := by
  obtain ⟨zeros, rfl⟩ := h
  have hzeros : Nat.ofDigitChars 10 (List.replicate zeros '0') 0 = 0 := by
    induction zeros with
    | zero => rfl
    | succ zeros ih => exact ih
  rw [digitsValue_eq, Nat.ofDigitChars_append, hzeros,
    Nat.ofDigitChars_toDigits (by decide) (by decide)]

theorem readDigits_eq_some_iff {s : List Char} {n : Nat} :
    readDigits s = some n ↔ IsDigitsOf s n := by
  rw [readDigits]
  constructor
  · intro h
    split at h
    · next hdigits =>
        simp only [Bool.and_eq_true, Bool.not_eq_true', List.isEmpty_eq_false_iff,
          List.all_eq_true] at hdigits
        obtain rfl := Option.some.inj h
        exact isDigitsOf_of_all hdigits.1 hdigits.2
    · exact nomatch h
  · intro h
    have hall : s.all Char.isDigit = true := List.all_eq_true.2 fun c => h.isDigit
    rw [if_pos (by simp [h.ne_nil, hall]), h.value]

theorem IsDigitsOf.ne_sign_cons {s r : List Char} {n : Nat} {c : Char} (h : IsDigitsOf s n)
    (hc : c.isDigit = false) : s ≠ c :: r := by
  rintro rfl
  rw [h.isDigit List.mem_cons_self] at hc
  exact nomatch hc

theorem readInt_minus (ds : List Char) :
    readInt ('-' :: ds) = (readDigits ds).map fun n : Nat => -(n : Int) := by
  rw [readInt]
  cases readDigits ds <;> rfl

theorem readInt_of_ne_minus {s : List Char} (h : ∀ ds, s ≠ '-' :: ds) :
    readInt s = (readNat s).map fun n : Nat => (n : Int) := by
  rw [readInt]
  · cases readNat s <;> rfl
  · exact h

theorem readNat_eq_some_iff {s : List Char} {n : Nat} :
    readNat s = some n ↔ IsDigitsOf s n ∨ ∃ ds, s = '+' :: ds ∧ IsDigitsOf ds n := by
  have hplus : Char.isDigit '+' = false := by decide
  constructor
  · intro h
    rw [readNat.eq_def] at h
    split at h
    · exact .inr ⟨_, rfl, readDigits_eq_some_iff.1 h⟩
    · exact .inl (readDigits_eq_some_iff.1 h)
  · rintro (h | ⟨ds, rfl, h⟩)
    · rw [readNat]
      · exact readDigits_eq_some_iff.2 h
      · exact fun ds => h.ne_sign_cons hplus
    · exact readDigits_eq_some_iff.2 h

theorem readNat64_eq_some_iff {text : String} {n : Nat} : readNat64 text = some n ↔ IsWord text n := by
  rw [readNat64, Option.filter_eq_some_iff, readNat_eq_some_iff, decide_eq_true_iff]
  rfl

theorem readInt_eq_some_iff {s : List Char} {n : Int} : readInt s = some n ↔ IsNumeralOf s n := by
  have hminus : Char.isDigit '-' = false := by decide
  constructor
  · intro h
    by_cases hs : ∃ ds, s = '-' :: ds
    · obtain ⟨ds, rfl⟩ := hs
      rw [readInt_minus] at h
      obtain ⟨m, hm, rfl⟩ := Option.map_eq_some_iff.1 h
      exact .minus (readDigits_eq_some_iff.1 hm)
    · rw [readInt_of_ne_minus fun ds heq => hs ⟨ds, heq⟩] at h
      obtain ⟨m, hm, rfl⟩ := Option.map_eq_some_iff.1 h
      rcases readNat_eq_some_iff.1 hm with hdigits | ⟨ds, rfl, hdigits⟩
      · exact .unsigned hdigits
      · exact .plus hdigits
  · intro h
    cases h with
    | unsigned h =>
        rw [readInt_of_ne_minus fun ds => h.ne_sign_cons hminus, readNat_eq_some_iff.2 (.inl h)]
        rfl
    | plus h =>
        rw [readInt_of_ne_minus (by simp), readNat_eq_some_iff.2 (.inr ⟨_, rfl, h⟩)]
        rfl
    | minus h =>
        rw [readInt_minus, readDigits_eq_some_iff.2 h]
        rfl

theorem isBlank_of_isDigit {c : Char} (h : c.isDigit = true) : isBlank c = false := by
  have hlow : 48 ≤ c.toNat := (Char.isDigit_iff_toNat.1 h).1
  have hhigh : c.toNat ≤ 57 := (Char.isDigit_iff_toNat.1 h).2
  simp only [isBlank, CharRanges.has, blankRanges, List.any_cons, List.any_nil, Bool.or_false,
    Bool.or_eq_false_iff, Bool.and_eq_false_imp, decide_eq_true_eq, decide_eq_false_iff_not, not_le]
  omega

theorem IsNumeralOf.isBlank {s : List Char} {n : Int} (h : IsNumeralOf s n) {c : Char}
    (hc : c ∈ s) : Text.isBlank c = false := by
  cases h with
  | unsigned h => exact isBlank_of_isDigit (h.isDigit hc)
  | plus h | minus h =>
      rcases List.mem_cons.1 hc with rfl | hc
      · decide
      · exact isBlank_of_isDigit (h.isDigit hc)

theorem readInt_trim_eq_some_iff {text : String} {n : Int} :
    readInt (trim text).toList = some n ↔ Denotes text n := by
  rw [readInt_eq_some_iff, Denotes]
  exact toList_trim_iff (P := (IsNumeralOf · n)) fun _ h _ => h.isBlank

theorem readNat_trim_eq_some_iff {text : String} {n : Nat} :
    readNat (trim text).toList = some n ↔ Counts text n := by
  rw [readNat_eq_some_iff, Counts]
  refine toList_trim_iff (P := fun s => IsDigitsOf s n ∨ ∃ ds, s = '+' :: ds ∧ IsDigitsOf ds n) ?_
  rintro s (h | ⟨ds, rfl, h⟩) c hc
  · exact (IsNumeralOf.unsigned h).isBlank hc
  · exact (IsNumeralOf.plus h).isBlank hc

theorem readNat64_trim_eq_some_iff {text : String} {n : Nat} :
    readNat64 (trim text) = some n ↔ Counts text n ∧ n < 2 ^ 64 := by
  rw [readNat64, Option.filter_eq_some_iff, readNat_trim_eq_some_iff, decide_eq_true_iff]

instance (text : String) (n : Nat) : Decidable (Counts text n) :=
  decidable_of_iff _ readNat_trim_eq_some_iff

theorem Counts.of_mem {text : String} {n : Nat} (h : Counts text n) {c : Char}
    (hc : c ∈ text.toList) : isBlank c = true ∨ c.isDigit = true ∨ c = '+' := by
  obtain ⟨front, numeral, back, htext, hnumeral, hfront, hback⟩ := h
  rw [htext, List.mem_append, List.mem_append] at hc
  rcases hc with (hc | hc) | hc
  · exact .inl (hfront c hc)
  · rcases hnumeral with hdigits | ⟨ds, rfl, hdigits⟩
    · exact .inr (.inl (hdigits.isDigit hc))
    · rcases List.mem_cons.1 hc with rfl | hc
      · exact .inr (.inr rfl)
      · exact .inr (.inl (hdigits.isDigit hc))
  · exact .inl (hback c hc)

theorem readInt64_trim_eq_some_iff {text : String} {n : Int} :
    readInt64 (trim text) = some n ↔ Denotes text n ∧ -2 ^ 63 ≤ n ∧ n < 2 ^ 63 := by
  rw [readInt64, Option.filter_eq_some_iff, readInt_trim_eq_some_iff, Bool.and_eq_true,
    decide_eq_true_iff, decide_eq_true_iff]

end RelayGate.Text
