import RelayGate.Proofs.Settings
import RelayGate.Proofs.Text.Decimal

namespace RelayGate

def fault? {ε α : Type} : Except ε α → Option ε
  | .ok _ => none
  | .error e => some e

theorem fault?_eq_some_iff {ε α : Type} {x : Except ε α} {e : ε} :
    fault? x = some e ↔ x = .error e := by
  cases x <;> simp [fault?]

theorem fault?_eq_none_iff {ε α : Type} {x : Except ε α} :
    fault? x = none ↔ ∃ a, x = .ok a := by
  cases x <;> simp [fault?]

theorem fault?_bind {ε α β : Type} (x : Except ε α) (f : α → Except ε β) (next : Option ε)
    (h : ∀ a, x = .ok a → fault? (f a) = next) : fault? (x >>= f) = (fault? x).or next := by
  cases x with
  | error e => rfl
  | ok a => exact h a rfl

namespace Settings

/-- The last value of the variable is this text, blanks around it apart, and the text is not empty. -/
def Given (pairs : List (String × String)) (name text : String) : Prop :=
  ∃ value, pairs.reverse.lookup name = some value ∧ Text.trim value = text ∧ text ≠ ""

/-- What is in the settings is what the variable holds, or what is there in the absence of one. -/
structure Holds {α : Type} (pairs : List (String × String)) (name : String)
    (reads : String → α → Prop) (absent a : α) : Prop where
  given : ∀ text, Given pairs name text → reads text a
  absent : (∀ text, ¬ Given pairs name text) → a = absent

inductive SpanFault (pairs : List (String × String)) (name : String) : Settings.Error → Prop
  | zero {text : String} (hgiven : Given pairs name text) (hzero : Text.IsWord text 0) :
      SpanFault pairs name (.invalid name "0")
  | malformed {text : String} (hgiven : Given pairs name text) (hword : ∀ n, ¬ Text.IsWord text n) :
      SpanFault pairs name (.invalid name text)

variable {pairs : List (String × String)} {name text : String}

theorem text_eq_some_iff : Vars.text (.ofList pairs) name = some text ↔ Given pairs name text := by
  rw [Vars.text_ofList, Option.filter_eq_some_iff, Option.map_eq_some_iff, Bool.not_eq_true',
    ← Bool.not_eq_true, String.isEmpty_iff]
  constructor
  · rintro ⟨⟨value, hvalue, htext⟩, hne⟩
    exact ⟨value, hvalue, htext, hne⟩
  · rintro ⟨value, hvalue, htext, hne⟩
    exact ⟨⟨value, hvalue, htext⟩, hne⟩

theorem Given.trim_eq (h : Given pairs name text) : Text.trim text = text := by
  obtain ⟨value, -, rfl, -⟩ := h
  exact Text.trim_trim value

theorem holds_iff {α : Type} {reads : String → α → Prop} {absent a : α} :
    Holds pairs name reads absent a ↔ match Vars.text (.ofList pairs) name with
      | some text => reads text a
      | none => a = absent := by
  cases htext : Vars.text (.ofList pairs) name with
  | none =>
      have hnone : ∀ text, ¬ Given pairs name text := by
        intro text hgiven
        rw [← text_eq_some_iff, htext] at hgiven
        exact nomatch hgiven
      constructor
      · intro h
        exact h.absent hnone
      · intro h
        exact ⟨fun text hgiven => absurd hgiven (hnone text), fun _ => h⟩
  | some text =>
      have hgiven : Given pairs name text := text_eq_some_iff.1 htext
      constructor
      · intro h
        exact h.given text hgiven
      · intro h
        refine ⟨?_, fun hnone => absurd hgiven (hnone text)⟩
        intro text' hgiven'
        rw [← text_eq_some_iff, htext] at hgiven'
        obtain rfl := Option.some.inj hgiven'
        exact h

theorem holds_flag (pairs : List (String × String)) (name : String) (absent : Bool) :
    Holds pairs name (fun text b => b = true ↔ text.map Char.toLower ∈ ["1", "true", "yes"]) absent
      (Vars.flag (.ofList pairs) name absent) := by
  rw [holds_iff, Vars.flag]
  cases Vars.text (.ofList pairs) name with
  | none => rfl
  | some text => exact List.contains_iff_mem

section Parsed

variable {α : Type} {read : String → Option α}

theorem fault?_parsed (read : String → Option α) (vars : Vars) (name : String) :
    fault? (vars.parsed read name) = (vars.text name).bind fun text =>
      if (read text).isNone then some (.invalid name text) else none := by
  rw [Vars.parsed]
  cases vars.text name with
  | none => rfl
  | some text =>
      rw [Option.bind_some]
      cases hread : read text <;> simp [hread, fault?]

theorem fault?_parsed_eq_some_iff {e : Settings.Error} :
    fault? (Vars.parsed read (.ofList pairs) name) = some e ↔
      ∃ text, Given pairs name text ∧ read text = none ∧ e = .invalid name text := by
  rw [fault?_parsed, Option.bind_eq_some_iff]
  simp only [text_eq_some_iff, Option.ite_none_right_eq_some, Option.isNone_iff_eq_none,
    Option.some.injEq, @eq_comm _ _ e]

theorem fault?_parsed_eq_none_iff :
    fault? (Vars.parsed read (.ofList pairs) name) = none ↔
      ∀ text, Given pairs name text → ∃ a, read text = some a := by
  simp [fault?_parsed, Option.bind_eq_none_iff, text_eq_some_iff, Option.ne_none_iff_exists']

theorem holds_parsed {o : Option α} (h : Vars.parsed read (.ofList pairs) name = .ok o)
    {reads : String → α → Prop}
    (hread : ∀ text a, Given pairs name text → read text = some a → reads text a) (absent : α) :
    Holds pairs name reads absent (o.getD absent) := by
  rw [Vars.parsed] at h
  rw [holds_iff]
  cases htext : Vars.text (.ofList pairs) name with
  | none =>
      rw [htext] at h
      obtain rfl := Except.ok.inj h
      rfl
  | some text =>
      rw [htext] at h
      dsimp only at h
      cases ha : read text with
      | none =>
          rw [ha] at h
          exact nomatch h
      | some a =>
          rw [ha] at h
          obtain rfl := Except.ok.inj h
          exact hread text a (text_eq_some_iff.1 htext) ha

end Parsed

section Seconds

variable {absent : Duration}

def spanFault? (name text : String) : Option Settings.Error :=
  match Text.readNat64 text with
  | none => some (.invalid name text)
  | some 0 => some (.invalid name "0")
  | some _ => none

theorem spanFault?_eq_some_iff {e : Settings.Error} : spanFault? name text = some e ↔
    Text.IsWord text 0 ∧ e = .invalid name "0" ∨
      (∀ n, ¬ Text.IsWord text n) ∧ e = .invalid name text := by
  simp only [← Text.readNat64_eq_some_iff, spanFault?]
  cases Text.readNat64 text with
  | none => simp [eq_comm]
  | some n => cases n <;> simp [eq_comm]

theorem spanFault?_eq_none_iff :
    spanFault? name text = none ↔ ∃ n, Text.IsWord text n ∧ 0 < n := by
  simp only [← Text.readNat64_eq_some_iff, spanFault?]
  cases Text.readNat64 text with
  | none => simp
  | some n => cases n <;> simp

theorem seconds_eq (vars : Vars) (name : String) (absent : Duration) :
    vars.seconds name absent = match vars.text name with
      | none => .ok absent
      | some text =>
        match Text.readNat64 text with
        | none => .error (.invalid name text)
        | some 0 => .error (.invalid name "0")
        | some n => .ok (.ofSeconds n) := by
  rw [Vars.seconds, Vars.parsed]
  cases vars.text name with
  | none => rfl
  | some text =>
      dsimp only
      cases Text.readNat64 text with
      | none => rfl
      | some n => cases n <;> rfl

theorem fault?_seconds (vars : Vars) (name : String) (absent : Duration) :
    fault? (vars.seconds name absent) = (vars.text name).bind (spanFault? name) := by
  rw [seconds_eq]
  cases vars.text name with
  | none => rfl
  | some text =>
      rw [Option.bind_some, spanFault?]
      dsimp only
      cases Text.readNat64 text with
      | none => rfl
      | some n => cases n <;> rfl

theorem fault?_seconds_eq_some_iff {e : Settings.Error} :
    fault? (Vars.seconds (.ofList pairs) name absent) = some e ↔ SpanFault pairs name e := by
  rw [fault?_seconds, Option.bind_eq_some_iff]
  simp only [text_eq_some_iff, spanFault?_eq_some_iff]
  constructor
  · rintro ⟨text, hgiven, ⟨hzero, rfl⟩ | ⟨hword, rfl⟩⟩
    · exact .zero hgiven hzero
    · exact .malformed hgiven hword
  · intro h
    cases h with
    | zero hgiven hzero => exact ⟨_, hgiven, .inl ⟨hzero, rfl⟩⟩
    | malformed hgiven hword => exact ⟨_, hgiven, .inr ⟨hword, rfl⟩⟩

theorem fault?_seconds_eq_none_iff :
    fault? (Vars.seconds (.ofList pairs) name absent) = none ↔
      ∀ text, Given pairs name text → ∃ n, Text.IsWord text n ∧ 0 < n := by
  rw [fault?_seconds, Option.bind_eq_none_iff]
  simp only [text_eq_some_iff, spanFault?_eq_none_iff]

theorem holds_seconds {d : Duration} (h : Vars.seconds (.ofList pairs) name absent = .ok d) :
    Holds pairs name (fun text d => ∃ n, Text.IsWord text n ∧ d = .ofSeconds n) absent d := by
  rw [seconds_eq] at h
  rw [holds_iff]
  cases htext : Vars.text (.ofList pairs) name with
  | none =>
      rw [htext] at h
      exact (Except.ok.inj h).symm
  | some text =>
      rw [htext] at h
      dsimp only at h
      split at h
      · exact nomatch h
      · exact nomatch h
      · next n _ hread => exact ⟨n, Text.readNat64_eq_some_iff.1 hread, (Except.ok.inj h).symm⟩

end Seconds

theorem toOption_ofText?_eq_some_iff {text : String} {p : DecoyPolicy} :
    (DecoyPolicy.ofText? text).toOption = some p ↔ (Text.trim text).map Char.toLower = p.name := by
  rw [DecoyPolicy.ofText?]
  generalize (Text.trim text).map Char.toLower = lower
  split
  · cases p <;> decide
  · cases p <;> decide
  · next hreplace hmerge => cases p <;> simp_all [DecoyPolicy.name, Except.toOption]

theorem toOption_ofText?_eq_none_iff {text : String} : (DecoyPolicy.ofText? text).toOption = none ↔
    (Text.trim text).map Char.toLower ≠ "replace" ∧ (Text.trim text).map Char.toLower ≠ "merge" := by
  rw [Option.eq_none_iff_forall_ne_some]
  simp only [ne_eq, toOption_ofText?_eq_some_iff]
  constructor
  · intro h
    exact ⟨h .replace, h .merge⟩
  · intro h p
    cases p with
    | replace => exact h.1
    | merge => exact h.2

end Settings

end RelayGate
