import RelayGate.Proofs.KeyMap
import RelayGate.Proofs.Pack.Key
import RelayGate.Settings

namespace RelayGate

namespace Vars

theorem text_ofList (pairs : List (String × String)) (name : String) :
    text (.ofList pairs) name =
      ((pairs.reverse.lookup name).map Text.trim).filter fun s => !s.isEmpty := by
  rw [text, KeyMap.get?_ofList]

theorem text_ofList_eq_some {pairs : List (String × String)} {name text : String}
    (h : Vars.text (.ofList pairs) name = some text) :
    ∃ raw, pairs.reverse.lookup name = some raw ∧ text = Text.trim raw := by
  rw [text_ofList] at h
  obtain ⟨raw, hraw, htext⟩ := Option.map_eq_some_iff.1 (Option.eq_some_of_filter_eq_some h)
  exact ⟨raw, hraw, htext.symm⟩

theorem isProduction_ofList {pairs : List (String × String)} {env : String}
    (henv : pairs.reverse.lookup "KESTREL_ENV" = some env)
    (hproduction : (Text.trim env).map Char.toLower = "production") :
    isProduction (.ofList pairs) = true := by
  have hne : (Text.trim env).isEmpty = false := by
    rw [← Bool.not_eq_true, String.isEmpty_iff]
    intro hempty
    rw [hempty] at hproduction
    exact absurd hproduction (by decide +kernel)
  have htext : text (.ofList pairs) "KESTREL_ENV" = some (Text.trim env) := by
    simp [text_ofList, henv, hne]
  rw [isProduction, htext, Option.any_some, hproduction]
  exact beq_self_eq_true _

end Vars

namespace Settings

theorem play_eq_ok {vars : Vars} {allowBypass : Bool} {timeout : Duration} {p : PlayPolicy}
    (h : vars.play allowBypass timeout = .ok p) :
    ∃ maxAge, vars.seconds "PLAY_INTEGRITY_MAX_AGE_SECONDS" PlayPolicy.standard.maxAge = .ok maxAge ∧
      p = {
        package := vars.text "PLAY_INTEGRITY_PACKAGE_NAME"
        allowBasic := vars.flag "PLAY_INTEGRITY_ALLOW_BASIC" false
        requireLicensed := vars.flag "PLAY_INTEGRITY_REQUIRE_LICENSED" true
        maxAge := maxAge
        allowBypass := allowBypass
        timeout := timeout } := by
  obtain ⟨maxAge, hmaxAge, h⟩ := Except.bind_eq_ok.1 h
  exact ⟨maxAge, hmaxAge, (Except.ok.inj h).symm⟩

/-- What is read on the way to settings, and the settings that it makes. -/
theorem ofVars_eq_ok {pairs : List (String × String)} {s : Settings} (h : ofVars pairs = .ok s) :
    let vars : Vars := .ofList pairs
    let allowBypass := vars.flag "KESTREL_ALLOW_ATTESTATION_BYPASS" false
    ∃ timeout play gate policy maxEndpoints,
      vars.seconds "KESTREL_BACKEND_TIMEOUT_SECONDS" standard.backendTimeout = .ok timeout ∧
      vars.play allowBypass timeout = .ok play ∧ vars.gate = .ok gate ∧
      vars.parsed (fun s => (DecoyPolicy.ofText? s).toOption) "KESTREL_DECOY_POLICY" = .ok policy ∧
      vars.parsed Text.readNat64 "KESTREL_MAX_ENDPOINTS" = .ok maxEndpoints ∧
      s = {
        production := vars.isProduction
        keys := vars.keys
        allowBypass := allowBypass
        play := play
        credentials := vars.credentials
        appAttest := vars.appAttest allowBypass timeout
        gate := gate
        decoyPolicy := policy.getD .replace
        maxEndpoints := maxEndpoints.getD standard.maxEndpoints
        backendTimeout := timeout } := by
  intro vars allowBypass
  obtain ⟨timeout, htimeout, h⟩ := Except.bind_eq_ok.1 h
  obtain ⟨play, hplay, h⟩ := Except.bind_eq_ok.1 h
  obtain ⟨gate, hgate, h⟩ := Except.bind_eq_ok.1 h
  obtain ⟨policy, hpolicy, h⟩ := Except.bind_eq_ok.1 h
  obtain ⟨maxEndpoints, hmaxEndpoints, h⟩ := Except.bind_eq_ok.1 h
  exact ⟨timeout, play, gate, policy, maxEndpoints, htimeout, hplay, hgate, hpolicy, hmaxEndpoints,
    (Except.ok.inj h).symm⟩

theorem ofVars_ok {pairs : List (String × String)} {s : Settings} (h : ofVars pairs = .ok s) :
    s.production = Vars.isProduction (.ofList pairs) ∧ s.keys = Vars.keys (.ofList pairs) ∧
      s.play.allowBypass = s.allowBypass ∧ s.appAttest.allowBypass = s.allowBypass := by
  obtain ⟨_, _, _, _, _, -, hplay, -, -, -, rfl⟩ := ofVars_eq_ok h
  obtain ⟨_, -, rfl⟩ := play_eq_ok hplay
  exact ⟨rfl, rfl, rfl, rfl⟩

variable {s : Settings}

theorem validate_of_not_production (h : s.production = false) : s.validate = .ok () := by
  rw [validate, h]
  rfl

theorem validate_of_production (h : s.production = true) :
    (s.validate = .error .bypassInProduction ↔ s.allowBypass = true) ∧
      (s.validate = .error .ephemeralKeyInProduction ↔
        s.allowBypass = false ∧ s.keys.allowEphemeral = true) ∧
      (s.validate = .error .missingSigningKeyInProduction ↔
        s.allowBypass = false ∧ s.keys.allowEphemeral = false ∧ s.keys.privateKey = none) ∧
      (s.validate = .ok () ↔ s.allowBypass = false ∧ s.keys.allowEphemeral = false ∧
        s.keys.privateKey.isSome = true) := by
  rw [validate, h]
  cases s.allowBypass <;> cases s.keys.allowEphemeral <;> cases s.keys.privateKey <;> simp

end Settings

end RelayGate
