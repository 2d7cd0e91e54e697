import RelayGate.Proofs.Rollout.Complaint
import RelayGate.Proofs.Settings.Values

namespace RelayGate.Settings

/-- The last value of the variable is this one, and its name is that of a rollout percentage. -/
def Stages (pairs : List (String × String)) (name value : String) : Prop :=
  pairs.reverse.lookup name = some value ∧ Rollout.NamesScope (name, value)

/-- What settings may be refused for, in the order in which it is looked at. -/
inductive Concern where
  | timeout
  | maxAge
  | rollout
  | decoyPolicy
  | maxEndpoints
deriving DecidableEq

def concerns : List Concern := [.timeout, .maxAge, .rollout, .decoyPolicy, .maxEndpoints]

def Meets (pairs : List (String × String)) : Concern → Prop
  | .timeout =>
    ∀ text, Given pairs "KESTREL_BACKEND_TIMEOUT_SECONDS" text → ∃ n, Text.IsWord text n ∧ 0 < n
  | .maxAge =>
    ∀ text, Given pairs "PLAY_INTEGRITY_MAX_AGE_SECONDS" text → ∃ n, Text.IsWord text n ∧ 0 < n
  | .rollout => ∀ name value, Stages pairs name value → Rollout.IsPercentage value
  | .decoyPolicy =>
    ∀ text, Given pairs "KESTREL_DECOY_POLICY" text →
      text.map Char.toLower = "replace" ∨ text.map Char.toLower = "merge"
  | .maxEndpoints => ∀ text, Given pairs "KESTREL_MAX_ENDPOINTS" text → ∃ n, Text.IsWord text n

/-- What is reported where the variables are not what they have to be. Of several percentages it is the
one whose variable has the least name, by code points and so by bytes as well. -/
inductive Fault (pairs : List (String × String)) : Concern → Settings.Error → Prop
  | timeout {e : Settings.Error} (h : SpanFault pairs "KESTREL_BACKEND_TIMEOUT_SECONDS" e) :
      Fault pairs .timeout e
  | maxAge {e : Settings.Error} (h : SpanFault pairs "PLAY_INTEGRITY_MAX_AGE_SECONDS" e) :
      Fault pairs .maxAge e
  | rollout {name value : String} (hstages : Stages pairs name value)
      (hmalformed : ¬ Rollout.IsPercentage value)
      (hfirst : ∀ name' value', Stages pairs name' value' → name' < name →
        Rollout.IsPercentage value') :
      Fault pairs .rollout
        (.rollout (.malformed (String.ofList (Text.upper name.toList)) (Text.trim value)))
  | decoyPolicy {text : String} (hgiven : Given pairs "KESTREL_DECOY_POLICY" text)
      (hreplace : text.map Char.toLower ≠ "replace") (hmerge : text.map Char.toLower ≠ "merge") :
      Fault pairs .decoyPolicy (.invalid "KESTREL_DECOY_POLICY" text)
  | maxEndpoints {text : String} (hgiven : Given pairs "KESTREL_MAX_ENDPOINTS" text)
      (hword : ∀ n, ¬ Text.IsWord text n) :
      Fault pairs .maxEndpoints (.invalid "KESTREL_MAX_ENDPOINTS" text)

def IsFirstFault (pairs : List (String × String)) (e : Settings.Error) : Prop :=
  ∃ before concern after, concerns = before ++ concern :: after ∧
    (∀ c ∈ before, Meets pairs c) ∧ Fault pairs concern e

/-- The timeout and the bypass flag are those of the variables and the same in all parts of the
settings, and credentials in a text win over those in a file. -/
structure Matches (pairs : List (String × String)) (s : Settings) : Prop where
  timeout : Holds pairs "KESTREL_BACKEND_TIMEOUT_SECONDS"
    (fun text d => ∃ n, Text.IsWord text n ∧ d = .ofSeconds n) (.ofSeconds 10) s.backendTimeout
  maxAge : Holds pairs "PLAY_INTEGRITY_MAX_AGE_SECONDS"
    (fun text d => ∃ n, Text.IsWord text n ∧ d = .ofSeconds n) (.ofSeconds 300) s.play.maxAge
  decoyPolicy : Holds pairs "KESTREL_DECOY_POLICY"
    (fun text p => text.map Char.toLower = p.name) .replace s.decoyPolicy
  maxEndpoints : Holds pairs "KESTREL_MAX_ENDPOINTS" Text.IsWord 5 s.maxEndpoints
  bypass : Holds pairs "KESTREL_ALLOW_ATTESTATION_BYPASS"
    (fun text b => b = true ↔ text.map Char.toLower ∈ ["1", "true", "yes"]) false s.allowBypass
  sameTimeout : s.play.timeout = s.backendTimeout ∧ s.appAttest.timeout = s.backendTimeout
  sameBypass : s.play.allowBypass = s.allowBypass ∧ s.appAttest.allowBypass = s.allowBypass
  inline : ∀ text, Given pairs "PLAY_INTEGRITY_CREDENTIALS_JSON" text →
    s.credentials = some (.json text)
  file : (∀ text, ¬ Given pairs "PLAY_INTEGRITY_CREDENTIALS_JSON" text) →
    Holds pairs "PLAY_INTEGRITY_CREDENTIALS_FILE" (fun text c => c = some (.file text)) none
      s.credentials

variable {pairs : List (String × String)} {text : String}

theorem fault?_gate (vars : Vars) : fault? vars.gate =
    (vars.entries.findSome? Rollout.complaint?).map .rollout := by
  rw [Vars.gate]
  cases hfind : vars.entries.findSome? Rollout.complaint? with
  | none =>
      rw [Rollout.Gate.ofVars_of_no_complaint hfind]
      rfl
  | some e =>
      rw [Rollout.Gate.ofVars_eq_error_iff.2 hfind]
      rfl

theorem fault?_gate_eq_none_iff : fault? (Vars.gate (.ofList pairs)) = none ↔
    Meets pairs .rollout := by
  rw [fault?_gate, Option.map_eq_none_iff, KeyMap.findSome?_entries_eq_none_iff]
  simp only [Rollout.complaint?_eq_none_iff, KeyMap.get?_ofList]
  constructor
  · rintro h name value ⟨hvalue, hscope⟩
    exact h name value hvalue hscope
  · intro h name value hvalue hscope
    exact h name value ⟨hvalue, hscope⟩

theorem fault?_gate_eq_some_iff {e : Settings.Error} :
    fault? (Vars.gate (.ofList pairs)) = some e ↔ Fault pairs .rollout e := by
  rw [fault?_gate, Option.map_eq_some_iff]
  simp only [KeyMap.findSome?_entries_eq_some_iff, Rollout.complaint?_eq_some_iff,
    Rollout.complaint?_eq_none_iff, KeyMap.get?_ofList]
  constructor
  · rintro ⟨_, ⟨name, value, hvalue, ⟨hscope, hmalformed, rfl⟩, hbefore⟩, rfl⟩
    refine .rollout ⟨hvalue, hscope⟩ hmalformed ?_
    rintro name' value' ⟨hvalue', hscope'⟩ hlt
    exact hbefore name' value' hvalue' hlt hscope'
  · intro h
    cases h with
    | rollout hstages hmalformed hfirst =>
        refine ⟨_, ⟨_, _, hstages.1, ⟨hstages.2, hmalformed, rfl⟩, ?_⟩, rfl⟩
        intro name' value' hvalue' hlt hscope'
        exact hfirst name' value' ⟨hvalue', hscope'⟩ hlt

def objection? (vars : Vars) : Concern → Option Settings.Error
  | .timeout => fault? (vars.seconds "KESTREL_BACKEND_TIMEOUT_SECONDS" standard.backendTimeout)
  | .maxAge => fault? (vars.seconds "PLAY_INTEGRITY_MAX_AGE_SECONDS" PlayPolicy.standard.maxAge)
  | .rollout => fault? vars.gate
  | .decoyPolicy =>
    fault? (vars.parsed (fun s => (DecoyPolicy.ofText? s).toOption) "KESTREL_DECOY_POLICY")
  | .maxEndpoints => fault? (vars.parsed Text.readNat64 "KESTREL_MAX_ENDPOINTS")

theorem objection?_eq_none_iff {c : Concern} :
    objection? (.ofList pairs) c = none ↔ Meets pairs c := by
  cases c with
  | timeout => exact fault?_seconds_eq_none_iff
  | maxAge => exact fault?_seconds_eq_none_iff
  | rollout => exact fault?_gate_eq_none_iff
  | decoyPolicy =>
      refine fault?_parsed_eq_none_iff.trans (forall₂_congr fun text hgiven => ?_)
      rw [← Option.ne_none_iff_exists', ne_eq, toOption_ofText?_eq_none_iff, hgiven.trim_eq]
      simp only [ne_eq, not_and_or, not_not]
  | maxEndpoints =>
      refine fault?_parsed_eq_none_iff.trans (forall₂_congr fun text _ => ?_)
      simp only [Text.readNat64_eq_some_iff]

theorem objection?_eq_some_iff {c : Concern} {e : Settings.Error} :
    objection? (.ofList pairs) c = some e ↔ Fault pairs c e := by
  cases c with
  | timeout =>
      refine fault?_seconds_eq_some_iff.trans ⟨.timeout, fun h => ?_⟩
      cases h with
      | timeout h => exact h
  | maxAge =>
      refine fault?_seconds_eq_some_iff.trans ⟨.maxAge, fun h => ?_⟩
      cases h with
      | maxAge h => exact h
  | rollout => exact fault?_gate_eq_some_iff
  | decoyPolicy =>
      refine fault?_parsed_eq_some_iff.trans ?_
      simp only [toOption_ofText?_eq_none_iff]
      constructor
      · rintro ⟨text, hgiven, ⟨hreplace, hmerge⟩, rfl⟩
        rw [hgiven.trim_eq] at hreplace hmerge
        exact .decoyPolicy hgiven hreplace hmerge
      · intro h
        cases h with
        | decoyPolicy hgiven hreplace hmerge =>
            refine ⟨_, hgiven, ?_, rfl⟩
            rw [hgiven.trim_eq]
            exact ⟨hreplace, hmerge⟩
  | maxEndpoints =>
      refine fault?_parsed_eq_some_iff.trans ?_
      simp only [Option.eq_none_iff_forall_ne_some, ne_eq, Text.readNat64_eq_some_iff]
      constructor
      · rintro ⟨text, hgiven, hword, rfl⟩
        exact .maxEndpoints hgiven hword
      · intro h
        cases h with
        | maxEndpoints hgiven hword => exact ⟨_, hgiven, hword, rfl⟩

theorem fault?_play (vars : Vars) (allowBypass : Bool) (timeout : Duration) :
    fault? (vars.play allowBypass timeout) =
      fault? (vars.seconds "PLAY_INTEGRITY_MAX_AGE_SECONDS" PlayPolicy.standard.maxAge) := by
  rw [Vars.play, fault?_bind _ _ none fun _ _ => rfl, Option.or_none]

theorem fault?_ofVars (pairs : List (String × String)) :
    fault? (ofVars pairs) = concerns.findSome? (objection? (.ofList pairs)) := by
  have hcons (c : Concern) (cs : List Concern) (f : Concern → Option Settings.Error) :
      (c :: cs).findSome? f = (f c).or (cs.findSome? f) := by
    rw [List.findSome?_cons]
    cases f c <;> rfl
  simp only [concerns, hcons, List.findSome?_nil, objection?]
  rw [ofVars]
  refine fault?_bind _ _ _ fun timeout _ => ?_
  -- Of the policy for Play only the maximal age can be refused.
  rw [← fault?_play _ (Vars.flag (.ofList pairs) "KESTREL_ALLOW_ATTESTATION_BYPASS" false) timeout]
  refine fault?_bind _ _ _ fun play _ => ?_
  refine fault?_bind _ _ _ fun gate _ => ?_
  refine fault?_bind _ _ _ fun policy _ => ?_
  exact fault?_bind _ _ _ fun maxEndpoints _ => rfl

theorem ofVars_eq_error_iff {e : Settings.Error} :
    ofVars pairs = .error e ↔ IsFirstFault pairs e := by
  rw [← fault?_eq_some_iff, fault?_ofVars, List.findSome?_eq_some_iff, IsFirstFault]
  simp only [objection?_eq_none_iff, objection?_eq_some_iff]
  constructor
  · rintro ⟨before, c, after, hconcerns, hfault, hbefore⟩
    exact ⟨before, c, after, hconcerns, hbefore, hfault⟩
  · rintro ⟨before, c, after, hconcerns, hbefore, hfault⟩
    exact ⟨before, c, after, hconcerns, hfault, hbefore⟩

theorem exists_ofVars_iff : (∃ s, ofVars pairs = .ok s) ↔ ∀ c, Meets pairs c := by
  rw [← fault?_eq_none_iff, fault?_ofVars, List.findSome?_eq_none_iff]
  simp only [objection?_eq_none_iff]
  constructor
  · intro h c
    exact h c (by cases c <;> decide)
  · intro h c _
    exact h c

theorem credentials_of_inline (h : Given pairs "PLAY_INTEGRITY_CREDENTIALS_JSON" text) :
    Vars.credentials (.ofList pairs) = some (.json text) := by
  rw [Vars.credentials, text_eq_some_iff.2 h]

theorem holds_credentials (h : ∀ text, ¬ Given pairs "PLAY_INTEGRITY_CREDENTIALS_JSON" text) :
    Holds pairs "PLAY_INTEGRITY_CREDENTIALS_FILE" (fun text c => c = some (.file text)) none
      (Vars.credentials (.ofList pairs)) := by
  have hnone : Vars.text (.ofList pairs) "PLAY_INTEGRITY_CREDENTIALS_JSON" = none :=
    Option.eq_none_iff_forall_ne_some.2 fun text htext => h text (text_eq_some_iff.1 htext)
  rw [holds_iff, Vars.credentials, hnone]
  cases Vars.text (.ofList pairs) "PLAY_INTEGRITY_CREDENTIALS_FILE" <;> rfl

theorem matches_ofVars {s : Settings} (h : ofVars pairs = .ok s) : Matches pairs s := by
  obtain ⟨timeout, play, gate, policy, maxEndpoints, htimeout, hplay, -, hpolicy, hmaxEndpoints, rfl⟩ :=
    ofVars_eq_ok h
  obtain ⟨maxAge, hmaxAge, rfl⟩ := play_eq_ok hplay
  exact {
    timeout := holds_seconds htimeout
    maxAge := holds_seconds hmaxAge
    decoyPolicy := holds_parsed hpolicy (fun text p hgiven hread =>
      hgiven.trim_eq ▸ toOption_ofText?_eq_some_iff.1 hread) .replace
    maxEndpoints := holds_parsed hmaxEndpoints (fun _ _ _ hread =>
      Text.readNat64_eq_some_iff.1 hread) defaultLimit
    bypass := holds_flag pairs "KESTREL_ALLOW_ATTESTATION_BYPASS" false
    sameTimeout := ⟨rfl, rfl⟩
    sameBypass := ⟨rfl, rfl⟩
    inline := fun _ => credentials_of_inline
    file := holds_credentials }

/-- Whatever the variables are: settings come of them if and only if they meet every concern; an error
is the one of the first concern that they do not meet; and settings that come of them match them. -/
theorem ofVars_exact (pairs : List (String × String)) :
    ((∃ s, ofVars pairs = .ok s) ↔ ∀ c, Meets pairs c) ∧
    (∀ e, ofVars pairs = .error e ↔ IsFirstFault pairs e) ∧
    ∀ s, ofVars pairs = .ok s → Matches pairs s := by
  refine ⟨exists_ofVars_iff, ?_, ?_⟩
  · intro e
    exact ofVars_eq_error_iff
  · intro s hs
    exact matches_ofVars hs

/-- A timeout with a sign and zeros in front behind one that is not allowed, a percentage below zero
whose variable is in lower case, and credentials among blanks. -/
def mixedVars : List (String × String) :=
  [("KESTREL_BACKEND_TIMEOUT_SECONDS", "0"), ("kestrel_rollout_percentage_eu", "\t-5\u00A0"),
    ("PLAY_INTEGRITY_CREDENTIALS_JSON", " {} "), ("KESTREL_BACKEND_TIMEOUT_SECONDS", "+007\n")]

def spoiledVars : List (String × String) :=
  [("KESTREL_DECOY_POLICY", "sometimes"), ("kestrel_rollout_percentage_us", "half"),
    ("kestrel_rollout_percentage_eu", " 5 % ")]

theorem ofVars_exact_mixed :
    (∃ s, ofVars mixedVars = .ok s ∧ Matches mixedVars s ∧ s.backendTimeout = .ofSeconds 7 ∧
      s.play.timeout = .ofSeconds 7 ∧ s.credentials = some (.json "{}") ∧ s.maxEndpoints = 5) ∧
    IsFirstFault spoiledVars
      (.rollout (.malformed "KESTREL_ROLLOUT_PERCENTAGE_EU" "5 %")) := by
  have hok : ofVars mixedVars = .ok {
      standard with
      play := { PlayPolicy.standard with timeout := .ofSeconds 7 }
      credentials := some (.json "{}")
      appAttest := { AppAttestPolicy.standard with timeout := .ofSeconds 7 }
      gate := some (Rollout.Gate.full.override none (some "eu") (-5))
      backendTimeout := .ofSeconds 7 } := by decide +kernel
  have herror : ofVars spoiledVars =
      .error (.rollout (.malformed "KESTREL_ROLLOUT_PERCENTAGE_EU" "5 %")) := by decide +kernel
  obtain ⟨-, hfirst, -⟩ := ofVars_exact spoiledVars
  obtain ⟨-, -, hmatches⟩ := ofVars_exact mixedVars
  exact ⟨⟨_, hok, hmatches _ hok, rfl, rfl, rfl, rfl⟩, (hfirst _).1 herror⟩

end RelayGate.Settings
