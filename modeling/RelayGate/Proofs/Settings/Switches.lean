import RelayGate.Proofs.Settings.Blanks
import RelayGate.Proofs.Trust.Acceptance
import RelayGate.Proofs.Trust.Judgement

namespace RelayGate

namespace PlayPolicy

def requiring (p : PlayPolicy) (licence : Bool) : PlayPolicy := { p with requireLicensed := licence }

/-- A payload that nothing but the lack of a licence can be held against, whatever the policy is. -/
def unlicensed (package : String) (now : Clock) : PlayPayload where
  request := some ⟨some package, some now.millis, none⟩
  app := some ⟨some "PLAY_RECOGNIZED"⟩
  account := none
  device := some ⟨["MEETS_STRONG_INTEGRITY"]⟩

variable {p : PlayPolicy} {package : String} {i : AttestInput} {now : Clock}

theorem isValid_judge_unlicensed_iff :
    (p.judge (unlicensed package now) package i now).isValid = true ↔ p.requireLicensed = false := by
  rw [isValid_judge, objection_eq_none_iff]
  constructor
  · rintro ⟨-, -, -, -, -, hlicensed, -⟩
    rw [← Bool.not_eq_true]
    intro hrequired
    exact nomatch hlicensed hrequired
  · intro h
    have hfresh : p.isFresh now (some now.millis) = true := isFresh_some_iff.2 (by simp)
    refine ⟨_, rfl, rfl, hfresh, rfl, ?_, rfl⟩
    intro hrequired
    rw [h] at hrequired
    exact nomatch hrequired

theorem forall_isValid_judge_iff :
    (∀ payload package i now, (p.judge payload package i now).isValid = true →
      ((p.requiring true).judge payload package i now).isValid = true) ↔
        p.requireLicensed = true := by
  constructor
  · intro h
    by_contra hlicence
    rw [Bool.not_eq_true] at hlicence
    have hvalid := h (unlicensed "" ⟨0⟩) "" ⟨"", "", "", none⟩ ⟨0⟩
      (isValid_judge_unlicensed_iff.2 hlicence)
    exact nomatch isValid_judge_unlicensed_iff.1 hvalid
  · intro h payload package i now hvalid
    have hsame : p.requiring true = p := by
      rw [requiring, ← h]
    rwa [hsame]

end PlayPolicy

theorem Rollout.Gate.foldlM_addVar_filter {keep : String × String → Bool}
    {vars : List (String × String)} (h : ∀ var ∈ vars, keep var = false → IsForeign var) (g : Gate) :
    (vars.filter keep).foldlM addVar g = vars.foldlM addVar g := by
  induction vars generalizing g with
  | nil => rfl
  | cons var vars ih =>
      have hrest := ih fun v hv => h v (List.mem_cons_of_mem var hv)
      rw [List.filter_cons, List.foldlM_cons]
      split
      · rw [List.foldlM_cons]
        exact congrArg (g.addVar var >>= ·) (funext hrest)
      · next hdropped =>
          rw [Bool.not_eq_true] at hdropped
          have hforeign := h var List.mem_cons_self hdropped
          rw [addVar_eq, isForeign_iff.1 hforeign, hrest]
          rfl

namespace Settings

def unset (name : String) (pairs : List (String × String)) : List (String × String) :=
  pairs.filter fun p => p.1 ≠ name

variable {pairs : List (String × String)} {name other : String}

theorem text_unset (h : other ≠ name) :
    Vars.text (.ofList (unset name pairs)) other = Vars.text (.ofList pairs) other := by
  have hget := KeyMap.get?_ofList_filter_name (fun n => n ≠ name) pairs other
  rw [if_pos (decide_eq_true h)] at hget
  rw [Vars.text, Vars.text, unset, hget]

theorem text_unset_self : Vars.text (.ofList (unset name pairs)) name = none := by
  have hget := KeyMap.get?_ofList_filter_name (fun n => n ≠ name) pairs name
  rw [if_neg (by simp)] at hget
  rw [Vars.text, unset, hget]
  rfl

theorem gate_unset (h : ∀ value, Rollout.IsForeign (name, value)) :
    Vars.gate (.ofList (unset name pairs)) = Vars.gate (.ofList pairs) := by
  have hentries := KeyMap.entries_ofList_filter_name (fun n => n ≠ name) pairs
  rw [Vars.gate, Vars.gate, unset, hentries, Rollout.Gate.ofVars, Rollout.Gate.foldlM_addVar_filter]
  · rfl
  · rintro ⟨n, value⟩ - hdropped
    obtain rfl : n = name := by simpa using hdropped
    exact h value

theorem flag_unset (h : other ≠ name) (absent : Bool) :
    Vars.flag (.ofList (unset name pairs)) other absent = Vars.flag (.ofList pairs) other absent := by
  rw [Vars.flag, Vars.flag, text_unset h]

theorem parsed_unset {α : Type} (read : String → Option α) (h : other ≠ name) :
    Vars.parsed read (.ofList (unset name pairs)) other = Vars.parsed read (.ofList pairs) other := by
  rw [Vars.parsed, Vars.parsed, text_unset h]

theorem seconds_unset (h : other ≠ name) (absent : Duration) :
    Vars.seconds (.ofList (unset name pairs)) other absent =
      Vars.seconds (.ofList pairs) other absent := by
  rw [Vars.seconds, Vars.seconds, parsed_unset Text.readNat64 h]

theorem ofVars_unset_licence : ofVars (unset "PLAY_INTEGRITY_REQUIRE_LICENSED" pairs) =
    (fun s : Settings => { s with play := s.play.requiring true }) <$> ofVars pairs := by
  have hforeign (value : String) :
      Rollout.IsForeign ("PLAY_INTEGRITY_REQUIRE_LICENSED", value) := by
    rw [Rollout.isForeign_iff]
    change Rollout.isScope
      (String.ofList (Text.upper "PLAY_INTEGRITY_REQUIRE_LICENSED".toList)) = false
    decide +kernel
  have hlicence :
      Vars.flag (.ofList (unset "PLAY_INTEGRITY_REQUIRE_LICENSED" pairs))
        "PLAY_INTEGRITY_REQUIRE_LICENSED" true = true := by
    rw [Vars.flag, text_unset_self]
  have hplay (allowBypass : Bool) (timeout : Duration) :
      Vars.play (.ofList (unset "PLAY_INTEGRITY_REQUIRE_LICENSED" pairs)) allowBypass timeout =
        (·.requiring true) <$> Vars.play (.ofList pairs) allowBypass timeout := by
    simp (disch := decide) only [Vars.play, seconds_unset, flag_unset, text_unset, hlicence,
      map_bind]
    exact Except.bind_congr fun maxAge _ => rfl
  simp (disch := decide) only [ofVars, hplay, seconds_unset, flag_unset, parsed_unset,
    gate_unset hforeign, Vars.isProduction, Vars.keys, Vars.credentials, Vars.appAttest, text_unset,
    map_bind]
  refine Except.bind_congr fun timeout _ => ?_
  cases Vars.play (.ofList pairs) _ timeout <;> rfl

def IsTurnedOff (pairs : List (String × String)) (name : String) : Prop :=
  ∃ text, Given pairs name text ∧ text.map Char.toLower ∉ ["1", "true", "yes"]

/-- The words that are meant to turn a switch off. -/
def disabling : List String := ["0", "false", "no", "off"]

theorem flag_eq_true_iff :
    Vars.flag (.ofList pairs) name true = true ↔ ¬ IsTurnedOff pairs name := by
  have hholds := holds_flag pairs name true
  constructor
  · rintro hon ⟨text, hgiven, hword⟩
    exact hword ((hholds.given text hgiven).1 hon)
  · intro h
    by_cases hgiven : ∃ text, Given pairs name text
    · obtain ⟨text, hgiven⟩ := hgiven
      rw [hholds.given text hgiven]
      by_contra hword
      exact h ⟨text, hgiven, hword⟩
    · exact hholds.absent (not_exists.1 hgiven)

theorem requireLicensed_ofVars {s : Settings} (h : ofVars pairs = .ok s) :
    s.play.requireLicensed = Vars.flag (.ofList pairs) "PLAY_INTEGRITY_REQUIRE_LICENSED" true := by
  obtain ⟨_, _, _, _, _, -, hplay, -, -, -, rfl⟩ := ofVars_eq_ok h
  obtain ⟨_, -, rfl⟩ := play_eq_ok hplay
  rfl

theorem production_ofVars {s : Settings} (h : ofVars pairs = .ok s) :
    s.appAttest.production = Vars.flag (.ofList pairs) "APPLE_PRODUCTION" true := by
  obtain ⟨_, _, _, _, _, -, -, -, -, -, rfl⟩ := ofVars_eq_ok h
  rfl

/-- A switch is turned off by any text but three words, whether or not the text is a word for off. The
one for licences then lets a payload pass that is refused without the variable, and while it is on
there is none; nothing else depends on it. The other one is the environment that every request to the
validator is about. -/
theorem switches_stay_on_iff {s : Settings} (h : ofVars pairs = .ok s) :
    (∃ strict, ofVars (unset "PLAY_INTEGRITY_REQUIRE_LICENSED" pairs) = .ok strict ∧
      strict = { s with play := { s.play with requireLicensed := true } } ∧
      ((∀ payload package i now, (s.play.judge payload package i now).isValid = true →
        (strict.play.judge payload package i now).isValid = true) ↔
          ¬ IsTurnedOff pairs "PLAY_INTEGRITY_REQUIRE_LICENSED")) ∧
    ∀ validator i now request,
      .validate request ∈ (AppAttestVerifier.attest ⟨s.appAttest, validator⟩ i now).calls →
        (request.production = true ↔ ¬ IsTurnedOff pairs "APPLE_PRODUCTION") := by
  refine ⟨⟨{ s with play := s.play.requiring true }, ?_, rfl, ?_⟩, ?_⟩
  · rw [ofVars_unset_licence, h]
    rfl
  · rw [← flag_eq_true_iff, ← requireLicensed_ofVars h]
    exact PlayPolicy.forall_isValid_judge_iff
  · intro validator i now request hcall
    obtain ⟨_, _, hasks, hrequest⟩ :=
      (AppAttestVerifier.comesTo_attest _ i now).asks_of_mem_calls hcall
    obtain rfl := BackendCall.validate.inj hrequest
    rw [hasks.environment, ← flag_eq_true_iff, production_ofVars h]

def spelledVars : List (String × String) :=
  [("PLAY_INTEGRITY_REQUIRE_LICENSED", " On\t"), ("APPLE_TEAM_ID", "TEAM123"),
    ("APPLE_BUNDLE_ID", "net.kestrel.ios"), ("APPLE_PRODUCTION", "enabled")]

def spelledSettings : Settings :=
  { standard with
    play := { PlayPolicy.standard with requireLicensed := false }
    appAttest := { AppAttestPolicy.standard with
      team := some "TEAM123", bundle := some "net.kestrel.ios", production := false } }

def confirming : AppAttestVerifier := ⟨spelledSettings.appAttest, some fun _ => ⟨⟨0⟩, .ok ()⟩⟩

def sender : AttestInput := ⟨"ios", "[\"AQ==\"]", "d", some "k"⟩

theorem ofVars_spelled : ofVars spelledVars = .ok spelledSettings := by decide +kernel

theorem ofVars_unset_spelled : ofVars (unset "PLAY_INTEGRITY_REQUIRE_LICENSED" spelledVars) =
    .ok { spelledSettings with play := .standard } := by
  rw [ofVars_unset_licence, ofVars_spelled]
  rfl

theorem mem_calls_sender : .validate ⟨"TEAM123.net.kestrel.ios", false, ⟨[1], none, "k"⟩⟩ ∈
    (confirming.attest sender ⟨0⟩).calls := by decide +kernel

theorem switches_stay_on_iff_spelled :
    (¬ ∀ payload package i now,
      (spelledSettings.play.judge payload package i now).isValid = true →
        (PlayPolicy.standard.judge payload package i now).isValid = true) ∧
    ∃ request, .validate request ∈ (confirming.attest sender ⟨0⟩).calls ∧
      ¬ request.production = true := by
  have hlicence : IsTurnedOff spelledVars "PLAY_INTEGRITY_REQUIRE_LICENSED" :=
    ⟨"On", text_eq_some_iff.1 (by decide +kernel), by decide +kernel⟩
  have hproduction : IsTurnedOff spelledVars "APPLE_PRODUCTION" :=
    ⟨"enabled", text_eq_some_iff.1 (by decide +kernel), by decide +kernel⟩
  obtain ⟨⟨strict, hstrict, -, hiff⟩, hasked⟩ := switches_stay_on_iff ofVars_spelled
  obtain rfl := Except.ok.inj (ofVars_unset_spelled.symm.trans hstrict)
  exact ⟨fun h => hiff.1 h hlicence, _, mem_calls_sender,
    fun hon => (hasked _ _ _ _ mem_calls_sender).1 hon hproduction⟩

/-- A word that is none of those for off turns either switch off, though it may be a word for on. -/
theorem switches_turned_off_by_spelling :
    (¬ ∀ (pairs : List (String × String)) (s strict : Settings) (value : String),
      ofVars pairs = .ok s → ofVars (unset "PLAY_INTEGRITY_REQUIRE_LICENSED" pairs) = .ok strict →
      pairs.reverse.lookup "PLAY_INTEGRITY_REQUIRE_LICENSED" = some value →
      (Text.trim value).map Char.toLower ∉ disabling →
      ∀ payload package i now, (s.play.judge payload package i now).isValid = true →
        (strict.play.judge payload package i now).isValid = true) ∧
    ¬ ∀ (pairs : List (String × String)) (s : Settings) (value : String), ofVars pairs = .ok s →
      pairs.reverse.lookup "APPLE_PRODUCTION" = some value →
      (Text.trim value).map Char.toLower ∉ disabling →
      ∀ validator i now request,
        .validate request ∈ (AppAttestVerifier.attest ⟨s.appAttest, validator⟩ i now).calls →
          request.production = true := by
  constructor
  · intro h
    have hvalid := h _ _ _ " On\t" ofVars_spelled ofVars_unset_spelled (by decide)
      (by decide +kernel) (PlayPolicy.unlicensed "" ⟨0⟩) "" sender ⟨0⟩
      (PlayPolicy.isValid_judge_unlicensed_iff.2 rfl)
    exact nomatch PlayPolicy.isValid_judge_unlicensed_iff.1 hvalid
  · intro h
    exact nomatch h _ _ "enabled" ofVars_spelled (by decide) (by decide +kernel) _ _ _ _
      mem_calls_sender

end Settings

end RelayGate
