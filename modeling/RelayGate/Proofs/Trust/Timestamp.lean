import Mathlib.Logic.ExistsUnique
import RelayGate.Proofs.Json.Slot
import RelayGate.Proofs.Text.Decimal
import RelayGate.Trust.Payload

namespace RelayGate.PlayPayload

/-- What a value means as a timestamp: a time, no time, or nothing that can be read. -/
inductive Reads : Json → Option (Option UInt64) → Prop
  | null : Reads .null (some none)
  | number {time : UInt64} : Reads (.ofNat time.toNat) (some (some time))
  | numeral {s : String} {time : UInt64} (h : Text.Counts s time.toNat) :
      Reads (.ofText s) (some (some time))
  | largeNumber {n : Nat} (h : 2 ^ 64 ≤ n) : Reads (.ofNat n) none
  | largeNumeral {s : String} {n : Nat} (hs : Text.Counts s n) (h : 2 ^ 64 ≤ n) :
      Reads (.ofText s) none
  /-- A number with a minus sign, if only before zero, a point or a power of ten. -/
  | marked {n : Numeral} (h : n.negative = true ∨ n.fraction ≠ [] ∨ n.exponent ≠ none) :
      Reads (.number n) none
  | otherText {s : String} (h : ∀ n, ¬ Text.Counts s n) : Reads (.ofText s) none
  | noText : Reads (.string none) none
  | bool {b : Bool} : Reads (.bool b) none
  | array {items : List Json} : Reads (.array items) none
  | object {fields : List (Option String × Json)} : Reads (.object fields) none

theorem time?_ofNat (n : Nat) : time? (.ofNat n) =
    if n < 2 ^ 64 then some (some (UInt64.ofNat n)) else none := by
  have hn : (Json.ofNat n).nat? (2 ^ 64) = if n < 2 ^ 64 then some n else none := by
    change (some n).filter (· < 2 ^ 64) = _
    rw [Option.filter_some]
    simp only [decide_eq_true_eq]
  change (((Json.ofNat n).nat? (2 ^ 64)).map UInt64.ofNat).map some = _
  rw [hn]
  split <;> rfl

theorem time?_ofText_of_counts {s : String} {n : Nat} (h : Text.Counts s n) :
    time? (.ofText s) = time? (.ofNat n) := by
  rw [time?_ofNat, Json.ofText, time?]
  split
  · next hn =>
      rw [Text.readNat64_trim_eq_some_iff.2 ⟨h, hn⟩]
      rfl
  · next hn =>
      have hnone : Text.readNat64 (Text.trim s) = none := by
        rw [Text.readNat64, Text.readNat_trim_eq_some_iff.2 h, Option.filter_some,
          if_neg (by simpa using hn)]
      rw [hnone]
      rfl

theorem time?_ofText_of_not_counts {s : String} (h : ∀ n, ¬ Text.Counts s n) :
    time? (.ofText s) = none := by
  have hnone : Text.readNat64 (Text.trim s) = none := by
    apply Option.eq_none_iff_forall_ne_some.2
    intro n hn
    exact h n (Text.readNat64_trim_eq_some_iff.1 hn).1
  rw [Json.ofText, time?, hnone]
  rfl

theorem toNat?_of_marked {n : Numeral} (h : n.negative = true ∨ n.fraction ≠ [] ∨ n.exponent ≠ none) :
    n.toNat? = none := by
  obtain ⟨negative, whole, fraction, exponent⟩ := n
  cases negative <;> cases fraction <;> cases exponent <;> simp_all [Numeral.toNat?]

theorem time?_of_reads {v : Json} {outcome : Option (Option UInt64)} (h : Reads v outcome) :
    time? v = outcome := by
  cases h with
  | null | noText | bool | array | object => rfl
  | number => rw [time?_ofNat, if_pos (UInt64.toNat_lt _), UInt64.ofNat_toNat]
  | numeral h =>
      rw [time?_ofText_of_counts h, time?_ofNat, if_pos (UInt64.toNat_lt _), UInt64.ofNat_toNat]
  | largeNumber h => rw [time?_ofNat, if_neg (Nat.not_lt.2 h)]
  | largeNumeral hs h => rw [time?_ofText_of_counts hs, time?_ofNat, if_neg (Nat.not_lt.2 h)]
  | marked h => simp only [time?, Json.uint64?, Json.nat?, toNat?_of_marked h]; rfl
  | otherText h => exact time?_ofText_of_not_counts h

theorem exists_time {n : Nat} (h : n < 2 ^ 64) : ∃ time : UInt64, time.toNat = n :=
  ⟨UInt64.ofNat n, UInt64.toNat_ofNat_of_lt' h⟩

theorem exists_reads (v : Json) : ∃ outcome, Reads v outcome := by
  cases v with
  | null => exact ⟨_, .null⟩
  | bool b => exact ⟨_, .bool⟩
  | array items => exact ⟨_, .array⟩
  | object fields => exact ⟨_, .object⟩
  | number n =>
      by_cases hmarked : n.negative = true ∨ n.fraction ≠ [] ∨ n.exponent ≠ none
      · exact ⟨_, .marked hmarked⟩
      · have hplain : Json.number n = .ofNat n.whole := by
          obtain ⟨negative, whole, fraction, exponent⟩ := n
          simp only [not_or, Bool.not_eq_true, ne_eq, not_not] at hmarked
          obtain ⟨rfl, rfl, rfl⟩ := hmarked
          rfl
        rw [hplain]
        by_cases hn : n.whole < 2 ^ 64
        · obtain ⟨time, htime⟩ := exists_time hn
          rw [← htime]
          exact ⟨_, .number⟩
        · exact ⟨_, .largeNumber (Nat.not_lt.1 hn)⟩
  | string text =>
      cases text with
      | none => exact ⟨_, .noText⟩
      | some s =>
          by_cases hcounts : ∃ n, Text.Counts s n
          · obtain ⟨n, hcounts⟩ := hcounts
            by_cases hn : n < 2 ^ 64
            · obtain ⟨time, rfl⟩ := exists_time hn
              exact ⟨_, .numeral hcounts⟩
            · exact ⟨_, .largeNumeral hcounts (Nat.not_lt.1 hn)⟩
          · exact ⟨_, .otherText (not_exists.1 hcounts)⟩

theorem reads_iff {v : Json} {outcome : Option (Option UInt64)} :
    Reads v outcome ↔ time? v = outcome := by
  refine ⟨time?_of_reads, ?_⟩
  rintro rfl
  obtain ⟨outcome, h⟩ := exists_reads v
  rwa [time?_of_reads h]

def stamped (payload : Json.Slot 0) (request : Json.Slot 1) (time : Json) : Json :=
  payload.fill "requestDetails" (request.fill "timestampMillis" time)

/-- The request without any timestamp. -/
inductive Unstamped : Json.Slot 1 → Json → Prop
  | object {before after : List (Option String × Json)}
      (h : ∀ f ∈ before ++ after, f.1 ≠ some "timestampMillis") :
      Unstamped (.object before after) (.object (before ++ after))
  | array {package : Json} : Unstamped (.array [package] [] rfl) (.array [package])
  | emptyArray : Unstamped (.array [.null] [] rfl) (.array [])

def dated (p : PlayPayload) (time : Option UInt64) : PlayPayload :=
  { p with request := p.request.map fun r => { r with time := time } }

abbrev requestShape : Json.Shape := ⟨["requestPackageName", "timestampMillis", "nonce"], 0⟩

abbrev payloadShape : Json.Shape :=
  ⟨["requestDetails", "appIntegrity", "accountDetails", "deviceIntegrity"], 0⟩

theorem readRequest_of_columns {request : Json.Slot 1} {v : Json} {column : Option Json}
    (h : requestShape.columns v =
      (requestShape.columns (request.fill "timestampMillis" .null)).map (·.set 1 column)) :
    readRequest v = (Json.orElse none time? column).bind fun time =>
      (readRequest (request.fill "timestampMillis" .null)).map fun r => { r with time := time } := by
  rw [readRequest, readRequest, h]
  cases hcolumns : requestShape.columns (request.fill "timestampMillis" .null) with
  | none => cases Json.orElse none time? column <;> rfl
  | some columns =>
      obtain ⟨hrecord, rfl⟩ := (Json.columns_eq_some_iff (by decide)).1 hcolumns
      have hnull := Json.Slot.field_fill (by decide) (by decide) hrecord
      simp only [List.map_cons, List.map_nil, Option.map_some, List.set_cons_succ, List.set_cons_zero,
        hnull]
      generalize Json.optional Json.text? _ = package
      generalize Json.optional Json.text? _ = nonce
      cases Json.orElse none time? column <;> cases package <;> cases nonce <;> rfl

theorem readRequest_fill (request : Json.Slot 1) (v : Json) :
    readRequest (request.fill "timestampMillis" v) = (time? v).bind fun time =>
      (readRequest (request.fill "timestampMillis" .null)).map fun r => { r with time := time } :=
  readRequest_of_columns (Json.Slot.columns_fill (by decide) (by decide) (by decide) v .null)

theorem readRequest_unstamped {request : Json.Slot 1} {left : Json} (h : Unstamped request left) :
    readRequest left = readRequest (request.fill "timestampMillis" .null) := by
  cases h with
  | @object before after h =>
      let request : Json.Slot 1 := .object before after
      have hcolumns : requestShape.columns (.object (before ++ after)) =
          (requestShape.columns (request.fill "timestampMillis" .null)).map (·.set 1 none) :=
        Json.columns_without (by decide) (by decide) h .null
      exact (readRequest_of_columns hcolumns).trans (readRequest_fill request .null).symm
  | array | emptyArray => rfl

theorem ofJson?_fill (payload : Json.Slot 0) (v : Json) :
    ofJson? (payload.fill "requestDetails" v) =
      (Json.optional readRequest (some v)).bind fun request =>
        (ofJson? (payload.fill "requestDetails" .null)).map fun p => { p with request := request } := by
  rw [ofJson?, ofJson?, Json.Slot.columns_fill (by decide) (by decide) (by decide) v .null]
  cases hcolumns : payloadShape.columns (payload.fill "requestDetails" .null) with
  | none => cases Json.optional readRequest (some v) <;> rfl
  | some columns =>
      obtain ⟨hrecord, rfl⟩ := (Json.columns_eq_some_iff (by decide)).1 hcolumns
      have hnull := Json.Slot.field_fill (by decide) (by decide) hrecord
      simp only [List.map_cons, List.map_nil, Option.map_some, List.set_cons_zero, hnull]
      generalize Json.optional readApp _ = app
      generalize Json.optional readAccount _ = account
      generalize Json.optional readDevice _ = device
      cases Json.optional readRequest (some v) <;> cases app <;> cases account <;> cases device <;> rfl

theorem optional_readRequest_fill (request : Json.Slot 1) (v : Json) :
    Json.optional readRequest (some (request.fill "timestampMillis" v)) =
      (readRequest (request.fill "timestampMillis" v)).map some := by
  cases request <;> rfl

theorem ofJson?_stamped (payload : Json.Slot 0) (request : Json.Slot 1) (v : Json) :
    ofJson? (stamped payload request v) =
      (time? v).bind fun time => (ofJson? (stamped payload request .null)).map (dated · time) := by
  rw [stamped, stamped, ofJson?_fill, ofJson?_fill payload (request.fill _ .null),
    optional_readRequest_fill, optional_readRequest_fill, readRequest_fill request v]
  cases time? v with
  | none => rfl
  | some time =>
      cases readRequest (request.fill "timestampMillis" .null) with
      | none => rfl
      | some r => cases ofJson? (payload.fill "requestDetails" .null) <;> rfl

theorem ofJson?_unstamped (payload : Json.Slot 0) {request : Json.Slot 1} {left : Json}
    (h : Unstamped request left) :
    ofJson? (payload.fill "requestDetails" left) = ofJson? (stamped payload request .null) := by
  have hoptional : Json.optional readRequest (some left) = (readRequest left).map some := by
    cases h <;> rfl
  rw [stamped, ofJson?_fill, ofJson?_fill payload (request.fill _ .null), hoptional,
    optional_readRequest_fill, readRequest_unstamped h]

theorem request_of_stamped_null {payload : Json.Slot 0} {request : Json.Slot 1} {p : PlayPayload}
    (h : ofJson? (stamped payload request .null) = some p) :
    ∃ r, p.request = some r ∧ r.time = none := by
  rw [stamped, ofJson?_fill, optional_readRequest_fill, readRequest_fill] at h
  obtain ⟨read, hread, h⟩ := Option.bind_eq_some_iff.1 h
  obtain ⟨q, -, rfl⟩ := Option.map_eq_some_iff.1 h
  obtain ⟨r, hr, rfl⟩ := Option.map_eq_some_iff.1 hread
  obtain ⟨time, htime, hr⟩ := Option.bind_eq_some_iff.1 hr
  obtain ⟨r, -, rfl⟩ := Option.map_eq_some_iff.1 hr
  obtain rfl := Option.some.inj htime
  exact ⟨_, rfl, rfl⟩

theorem reads_of_mark {s : String} {c : Char} (hc : c ∈ s.toList) (hmark : c ∈ ['-', '.', 'e', 'E']) :
    Reads (.ofText s) none := by
  apply Reads.otherText
  intro n hcounts
  have hallowed := hcounts.of_mem hc
  simp only [List.mem_cons, List.not_mem_nil, or_false] at hmark
  rcases hmark with rfl | rfl | rfl | rfl <;> exact absurd hallowed (by decide)

/-- Whatever else a payload says, it says the same with a number and with any numeral of that number as
its timestamp, up to the last number of 64 bits; beyond that, and with anything else that is no number
without a mark, nothing can be read of it; and with null or no timestamp at all it has no time. -/
theorem parse_timestamp {payload : Json.Slot 0} {request : Json.Slot 1} {bare : String}
    (hbare : Json.parse bare = some (stamped payload request .null)) :
    (∀ p, parse bare = some p → ∃ r, p.request = some r ∧ r.time = none) ∧
    (∀ text left, Unstamped request left →
      Json.parse text = some (payload.fill "requestDetails" left) → parse text = parse bare) ∧
    (∀ text v outcome, Json.parse text = some (stamped payload request v) → Reads v outcome →
      parse text = outcome.bind fun time => (parse bare).map (dated · time)) ∧
    (∀ v, ∃! outcome, Reads v outcome) ∧
    (∀ number numeral s n, Text.Counts s n →
      Json.parse number = some (stamped payload request (.ofNat n)) →
      Json.parse numeral = some (stamped payload request (.ofText s)) →
        parse number = parse numeral) ∧
    ∀ s c, c ∈ s.toList → c ∈ ['-', '.', 'e', 'E'] → Reads (.ofText s) none := by
  have hparse (text : String) (v : Json) (h : Json.parse text = some v) : parse text = ofJson? v := by
    rw [parse, h, Option.bind_some]
  refine ⟨?_, ?_, ?_, ?_, ?_, ?_⟩
  · intro p hp
    rw [hparse bare _ hbare] at hp
    exact request_of_stamped_null hp
  · intro text left hleft htext
    rw [hparse text _ htext, hparse bare _ hbare, ofJson?_unstamped payload hleft]
  · intro text v outcome htext hreads
    rw [hparse text _ htext, hparse bare _ hbare, ofJson?_stamped, reads_iff.1 hreads]
  · intro v
    obtain ⟨outcome, hreads⟩ := exists_reads v
    refine ⟨outcome, hreads, ?_⟩
    intro other hother
    rw [← reads_iff.1 hreads, ← reads_iff.1 hother]
  · intro number numeral s n hcounts hnumber hnumeral
    rw [hparse number _ hnumber, hparse numeral _ hnumeral, ofJson?_stamped,
      ofJson?_stamped payload request (.ofText s), time?_ofText_of_counts hcounts]
  · intro s c hc hmark
    exact reads_of_mark hc hmark

def sample (v : Json) : Json := stamped (.object [] []) (.object [(some "nonce", .ofText "n")] []) v

theorem parse_timestamp_sample :
    parse (sample .null).toText = some ⟨some ⟨none, none, some "n"⟩, none, none, none⟩ ∧
    parse (sample (.ofText "\u2003+0018446744073709551615\n")).toText =
      some ⟨some ⟨none, some 18446744073709551615, some "n"⟩, none, none, none⟩ ∧
    parse (sample (.ofNat 18446744073709551615)).toText =
      parse (sample (.ofText "\u2003+0018446744073709551615\n")).toText ∧
    parse (sample (.ofText "18446744073709551616")).toText = none ∧
    parse (sample (.ofText "-0")).toText = none := by
  have htext (v : Json) : Json.parse (sample v).toText = some (sample v) := Json.parse_toText _
  obtain ⟨-, -, hreads, -, hsame, hmarks⟩ := parse_timestamp (htext .null)
  have hbare : parse (sample .null).toText = some ⟨some ⟨none, none, some "n"⟩, none, none, none⟩ := by
    decide +kernel
  have hcounts : Text.Counts "\u2003+0018446744073709551615\n"
      (18446744073709551615 : UInt64).toNat := by decide +kernel
  have hlarge : Text.Counts "18446744073709551616" (2 ^ 64) := by decide +kernel
  have hlast := hreads _ _ _ (htext _) (.numeral hcounts)
  rw [hbare] at hlast
  exact ⟨hbare, hlast, hsame _ _ _ _ hcounts (htext _) (htext _),
    hreads _ _ _ (htext _) (.largeNumeral hlarge (Nat.le_refl _)),
    hreads _ _ _ (htext _) (hmarks "-0" '-' (by decide) (by decide))⟩

end RelayGate.PlayPayload
