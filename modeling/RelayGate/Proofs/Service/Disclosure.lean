import RelayGate.Proofs.Service.Start

namespace RelayGate

namespace Deployment

theorem issuer_assess (s : Deployment) (r : PackRequest) :
    (s.assess r).2.service.issuer = s.service.issuer := by
  rcases s.assess_cases r with h | ⟨token, -, -, h⟩
  · rw [h]
  · rw [h, service_evaluate]

theorem exists_verdict {s : Deployment} (hs : s.service.issuer.policy = .replace) {r : PackRequest}
    {p : Pack} (h : (s.issuePack r).1 = .ok p) {card : RelayCard} (hcard : card ∈ p.endpoints)
    (hreal : card.isDecoy = false) :
    ∃ v, (s.assess r).1 = .ok (some v) ∧ needsDecoys (some v) = false := by
  obtain ⟨verdict, ha, hi⟩ := issuePack_ok h
  obtain ⟨region, hissue⟩ := World.issue_eq_ok.1 (issueFor_eq_ok.1 hi)
  obtain ⟨-, es, hchoose, rfl⟩ := Pack.Issuer.issue_ok hissue
  obtain ⟨e, he, rfl⟩ := List.mem_map.1 hcard
  have hneeds : needsDecoys verdict = false := by
    apply Bool.eq_false_iff.2
    intro hneeds
    rw [issuer_assess, hs] at hchoose
    have hdecoy := Lookup.isDecoy_of_choose (fun _ _ => World.isDecoy_of_lookup _) hneeds hchoose e he
    rw [Endpoint.card, hdecoy] at hreal
    exact nomatch hreal
  cases verdict with
  | none => exact nomatch hneeds
  | some v => exact ⟨v, ha, hneeds⟩

end Deployment

/-- The payload that a backend made of the token in time vouches for an Android client. -/
def AndroidConfirmed (settings : Settings) (past : List (Moment × Operation)) (m : Moment)
    (now : Clock) (token : String) : Prop :=
  ∃ package backend payload, settings.play.package = some package ∧
    m.Answers settings.credentials past backend ∧
    (backend package token).delay.millis ≤ settings.play.timeout.millis ∧
    (backend package token).answer = .ok payload ∧ settings.play.Vouches payload package now

/-- The validator confirmed in time the envelope that an iOS client sent as its token. -/
def IosConfirmed (settings : Settings) (m : Moment) (suppliedKeyId : Option String)
    (token : String) : Prop :=
  ∃ keyId team bundle envelope, suppliedKeyId = some keyId ∧ keyId ≠ "" ∧
    settings.appAttest.team = some team ∧ team ≠ "" ∧
    settings.appAttest.bundle = some bundle ∧ bundle ≠ "" ∧
    AttestEnvelope.parse token keyId = .ok envelope ∧
    let request : ValidationRequest :=
      ⟨team ++ "." ++ bundle, settings.appAttest.production, envelope⟩
    (m.validator request).delay.millis ≤ settings.appAttest.timeout.millis ∧
      (m.validator request).answer = .ok ()

/-- However a service was started and whatever has happened since, a real relay in a pack means that
the request carried a token, and that at this moment the token was confirmed for its platform. -/
theorem Service.real_relay_attested {settings : Settings} {connector : Option PlayConnector}
    {validator : Option Validator} {fresh : Bytes} {service : Service}
    (hstart : Service.start settings connector validator fresh = .ok service)
    (hpolicy : settings.decoyPolicy = .replace) {clock : Clock} {past : List (Moment × Operation)}
    {s : Deployment} (hrun : (⟨service, .atClock clock⟩ : Deployment).runFacing past = s)
    {m : Moment} {r : PackRequest} {p : Pack} (hpack : ((s.facing m).issuePack r).1 = .ok p)
    {card : RelayCard} (hcard : card ∈ p.endpoints) (hreal : card.isDecoy = false) :
    ∃ token, r.attestation = some token ∧ token ≠ "" ∧
      (r.platform = "android" ∧ connector.isSome = true ∧
          AndroidConfirmed settings past m s.world.clock token ∨
        r.platform = "ios" ∧ validator.isSome = true ∧ IosConfirmed settings m r.keyId token) := by
  have hstems : s.service.Stems settings connector validator past := by
    rw [← hrun]
    exact Service.Stems.run (s := ⟨service, .atClock clock⟩) (Service.stems_start hstart) past
  have hissuer : (s.facing m).service.issuer.policy = .replace := hstems.issuer.trans hpolicy
  obtain ⟨v, hassess, htrusted⟩ := Deployment.exists_verdict hissuer hpack hcard hreal
  obtain ⟨token, htoken, hne, heval⟩ := Deployment.assess_ok hassess
  obtain ⟨pv, av, he, hp, ha⟩ := hstems.evaluator_facing m
  rw [Deployment.facing, he] at heval
  refine ⟨token, htoken, hne, ?_⟩
  rcases Evaluator.evaluate_trusted heval htrusted with ⟨hplatform, hattest⟩ | ⟨hplatform, hattest⟩
  · left
    obtain ⟨package, backend, payload, hpackage, hconf, hreach, hdelay, hanswer, hvouches⟩ :=
      PlayVerifier.attest_trusted hattest htrusted
    have hpolicy : (m.play pv).policy = settings.play := hp.policy
    rw [hpolicy] at hpackage hdelay hvouches
    rw [hp.configured_play m] at hconf
    have hanswers := hp.answers (Option.isSome_of_eq_some hpackage) hconf hreach
    exact ⟨hplatform, hconf, package, backend, payload, hpackage, hanswers, hdelay, hanswer, hvouches⟩
  · right
    obtain ⟨keyId, appId, validate, envelope, hkey, hkeyne, happ, hval, hparse, hdelay, hanswer⟩ :=
      AppAttestVerifier.attest_trusted hattest htrusted
    rw [(ha.appAttest m).policy] at happ hdelay hanswer
    obtain ⟨u, hu, rfl⟩ := Option.map_eq_some_iff.1 hval
    have hconf : validator.isSome = true := by rw [← ha.configured, hu, Option.isSome_some]
    obtain ⟨team, bundle, hteam, hteamne, hbundle, hbundlene, rfl⟩ := AppAttestPolicy.appId_eq_some happ
    exact ⟨hplatform, hconf, keyId, team, bundle, envelope, hkey, hkeyne, hteam, hteamne, hbundle,
      hbundlene, hparse, hdelay, hanswer⟩

namespace Fleet

def settings : Settings :=
  { Settings.standard with
    keys := ⟨none, none, true⟩
    play := { PlayPolicy.standard with package := some "net.kestrel" } }

def payload : PlayPayload where
  request := some ⟨some "net.kestrel", some 1760000000000, none⟩
  app := some ⟨some "PLAY_RECOGNIZED"⟩
  account := some ⟨some "LICENSED"⟩
  device := some ⟨["MEETS_STRONG_INTEGRITY"]⟩

def moment : Moment := ⟨connector (some payload), backend (some payload), validator⟩

def request : PackRequest where
  device := "device"
  platform := "android"
  region := some "us-east-1"
  country := none
  preferred := []
  attestation := some "token"
  keyId := none
  clientVersion := none

def service : Service :=
  ⟨⟨[.play (.new settings.play (some (connector (some payload))) none), .appAttest ⟨.standard, none⟩]⟩,
    .new ⟨[], true⟩ .replace⟩

/-- The same services, to which nobody could connect any more. -/
def secluded : Moment := { moment with connector := fun _ => .error (.backend "refused") }

def history : List (Moment × Operation) :=
  [(moment, .upsert (relay "relay-idle" "us-east-1" 5 false)),
    (moment, .attestClient ⟨"android", "token", "visitor", none⟩)]

def deployment : Deployment := (⟨service, .atClock clock⟩ : Deployment).runFacing history

end Fleet

theorem Service.real_relay_attested_fleet :
    ∃ p card, ((Fleet.deployment.facing Fleet.secluded).issuePack Fleet.request).1 = .ok p ∧
      card ∈ p.endpoints ∧ card.isDecoy = false ∧
      AndroidConfirmed Fleet.settings Fleet.history Fleet.secluded Fleet.clock "token" := by
  have hstart : Service.start Fleet.settings (some (Fleet.connector (some Fleet.payload))) none [] =
      .ok Fleet.service := by rfl
  have hassess : ((Fleet.deployment.facing Fleet.secluded).assess Fleet.request).1 =
      .ok (some (.valid "android" "device" .strong 1760000000)) := by rfl
  have hblank : ¬ Deployment.isBlankText Fleet.request.device := by decide +kernel
  have hissue := Deployment.issuePack_of_assess hblank (by decide) hassess
  generalize ht : ((Fleet.deployment.facing Fleet.secluded).assess Fleet.request).2 = t at hissue
  have hregion : t.world.lookup.chooseRegion "us-east-1" [] = "us-east-1" := by
    rw [← ht]
    decide +kernel
  have hreal : t.world.lookup.realIn "us-east-1" = .ok [Fleet.relay "relay-idle" "us-east-1" 5 false] := by
    rw [← ht]
    rfl
  have hissuer : t.service.issuer = .new ⟨[], true⟩ .replace := by
    rw [← ht]
    rfl
  have hchoose : t.world.lookup.choose t.service.issuer.policy
      (t.world.lookup.chooseRegion "us-east-1" []) (some (.valid "android" "device" .strong 1760000000))
      t.service.issuer.maxEndpoints = .ok [Fleet.relay "relay-idle" "us-east-1" 5 false] := by
    rw [hissuer, hregion, Lookup.choose_trusted rfl, hreal]
    simp [Except.map, leastLoaded, Pack.Issuer.new, defaultLimit]
  have hpack := Deployment.issueFor_eq_ok.2 (World.issue_eq_ok.2
    ⟨_, Pack.Issuer.issue_of_choose hchoose t.world.clock Fleet.request.device⟩)
  rw [← hissue] at hpack
  refine ⟨_, _, hpack, List.mem_singleton.2 rfl, rfl, ?_⟩
  obtain ⟨token, htoken, -, ⟨-, -, hconfirmed⟩ | ⟨hios, -⟩⟩ :=
    Service.real_relay_attested hstart rfl rfl hpack (List.mem_singleton.2 rfl) rfl
  · obtain rfl := Option.some.inj htoken
    exact hconfirmed
  · exact absurd hios (by decide)

end RelayGate
