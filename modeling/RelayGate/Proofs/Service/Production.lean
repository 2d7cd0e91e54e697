import RelayGate.Proofs.Service.AuditTrail
import RelayGate.Proofs.Service.Trace
import RelayGate.Proofs.Settings
import RelayGate.Proofs.Trust.Bypass

namespace RelayGate

def Pack.SignedWith (p : Pack) (seed : Bytes) : Prop :=
  p.publicKey = Ed25519.publicKey seed ∧ p.signature = Ed25519.sign seed p.canonical

theorem Pack.signedWith_sign (p : Pack) {k : SigningKey} {seed : Bytes} (h : k.seed = seed) :
    (p.sign k).SignedWith seed := by
  subst h
  exact ⟨rfl, signature_sign p k⟩

namespace Service

/-- Whatever clock and directory the service works with, it reaches no bypass and signs with the
seed, which was not made up. -/
structure Guarded (s : Service) (seed : Bytes) : Prop where
  key : s.issuer.key = ⟨seed, false⟩
  verdict : ∀ i now v, (s.evaluator.evaluate i now).1.outcome = .ok v → v.tier ≠ .bypass
  pack : ∀ l now client hint preferred verdict region p,
    s.issuer.issue l now client hint preferred verdict = .ok (region, p) → p.SignedWith seed

variable {settings : Settings} {connector : Option PlayConnector} {validator : Option Validator}
  {fresh : Bytes} {service : Service}

theorem validate_of_start (h : start settings connector validator fresh = .ok service) :
    settings.validate = .ok () := by
  rw [start] at h
  split at h
  · cases h
  · cases h
  · assumption

theorem key_of_start {pairs : List (String × String)}
    (hstart : start settings connector validator fresh = .ok service)
    (hkeys : settings.keys = Vars.keys (.ofList pairs))
    (hephemeral : settings.keys.allowEphemeral = false) :
    ∃ text seed, pairs.reverse.lookup "KESTREL_CONFIG_SIGNING_PRIVATE_KEY" = some text ∧
      SigningKey.Spells text seed ∧ service.issuer.key = ⟨seed, false⟩ := by
  obtain ⟨⟨seed, ephemeral⟩, hkey, rfl⟩ := start_ok hstart
  rcases SigningKey.resolve_ok hkey with ⟨text, htext, rfl, hspells⟩ | ⟨hallow, -⟩
  · rw [hkeys] at htext
    obtain ⟨raw, hraw, rfl⟩ := Vars.text_ofList_eq_some htext
    exact ⟨raw, seed, hraw, hspells.of_trim, rfl⟩
  · rw [hephemeral] at hallow
    exact nomatch hallow

theorem guarded_facing (hstart : start settings connector validator fresh = .ok service)
    (hplay : settings.play.allowBypass = false) (happ : settings.appAttest.allowBypass = false)
    {seed : Bytes} (hkey : service.issuer.key = ⟨seed, false⟩) (world : World)
    (past : List (Moment × Operation)) (m : Moment) :
    (((⟨service, world⟩ : Deployment).runFacing past).facing m).service.Guarded seed := by
  have hstems : ((⟨service, world⟩ : Deployment).runFacing past).service.Stems settings connector
      validator past := Stems.run (s := ⟨service, world⟩) (stems_start hstart) past
  have hissuer := Deployment.issuer_run ⟨service, world⟩ past
  generalize (⟨service, world⟩ : Deployment).runFacing past = s at hstems hissuer
  have hk : (s.facing m).service.issuer.key = ⟨seed, false⟩ :=
    (congrArg Pack.Issuer.key hissuer).trans hkey
  refine ⟨hk, ?_, ?_⟩
  · intro i now v hv hbypass
    obtain ⟨pv, av, he, hp, ha⟩ := hstems.evaluator_facing m
    rw [Deployment.facing, he] at hv
    rcases Evaluator.evaluate_bypass hv hbypass with hallow | hallow
    · have hpolicy : (m.play pv).policy = settings.play := hp.policy
      rw [hpolicy, hplay] at hallow
      exact Bool.false_ne_true hallow
    · rw [(ha.appAttest m).policy, happ] at hallow
      exact Bool.false_ne_true hallow
  · intro l now client hint preferred verdict region p hissue
    obtain ⟨-, es, -, rfl⟩ := Pack.Issuer.issue_ok hissue
    exact Pack.signedWith_sign _ (congrArg SigningKey.seed hk)

end Service

namespace Turn

variable {t : Turn} {seed : Bytes}

theorem tier_of_evaluate (h : t.before.service.Guarded seed) {i : AttestInput} {v : Verdict}
    (hv : (t.before.evaluate i).1 = .ok v) : v.tier ≠ .bypass := by
  rw [Deployment.outcome_evaluate] at hv
  exact h.verdict i _ v hv

theorem tier_of_record (h : t.before.service.Guarded seed) {r : AuditRecord}
    (hr : t.before.record? t.operation = some r) : r.tier ≠ .bypass := by
  obtain ⟨i, -, hi⟩ := Option.bind_eq_some_iff.1 hr
  cases hv : (t.before.evaluate i).1 with
  | error e =>
      rw [hv] at hi
      exact nomatch hi
  | ok v =>
      have htier := tier_of_evaluate h hv
      rw [hv] at hi
      cases hfault : t.before.world.faults.audit with
      | some fault =>
          rw [hfault] at hi
          exact nomatch hi
      | none =>
          rw [hfault] at hi
          obtain rfl := Option.some.inj hi
          exact htier

theorem tier_of_outcome (h : t.before.service.Guarded seed) {f : Finding}
    (hf : t.answer = .outcome (.ok f)) : f.tier ≠ .bypass := by
  obtain ⟨s, o⟩ := t
  simp only [answer] at hf
  cases o with
  | attestClient r =>
      simp only [Deployment.step, Prod.map_fst] at hf
      obtain ⟨v, hv, rfl⟩ := Deployment.attestClient_ok (Answer.outcome.inj hf)
      exact tier_of_evaluate h hv
  | issuePack | logScan | listing | challenge | acceptReport | setLoad | upsert | advance
  | setFaults => simp only [Deployment.step, Prod.map_fst, reduceCtorEq] at hf

theorem signed_of_pack (h : t.before.service.Guarded seed) {p : Pack}
    (hp : t.answer = .pack (.ok p)) : p.SignedWith seed := by
  obtain ⟨s, o⟩ := t
  simp only [answer] at hp
  cases o with
  | issuePack r =>
      simp only [Deployment.step, Prod.map_fst] at hp
      obtain ⟨verdict, -, hissueFor⟩ := Deployment.issuePack_ok (Answer.pack.inj hp)
      obtain ⟨region, hissue⟩ := World.issue_eq_ok.1 (Deployment.issueFor_eq_ok.1 hissueFor)
      rw [Deployment.issuer_assess] at hissue
      exact h.pack _ _ _ _ _ _ _ _ hissue
  | attestClient | logScan | listing | challenge | acceptReport | setLoad | upsert | advance
  | setFaults => simp only [Deployment.step, Prod.map_fst, reduceCtorEq] at hp

end Turn

namespace Service

/-- Where variables for production are accepted and lead to a service, there is a configured private
key, and whatever the service works with and is asked to do, at every turn it is guarded by that key:
no answer and no audit record tells of a bypass, and every pack is signed with the key. Of settings,
those for production are refused for bypasses, for made-up keys and for a missing private key, and
the first of these is reported. -/
theorem production_guarded :
    (∀ {pairs : List (String × String)} {env : String} {settings : Settings}
      {connector : Option PlayConnector} {validator : Option Validator} {fresh : Bytes}
      {service : Service}, pairs.reverse.lookup "KESTREL_ENV" = some env →
      (Text.trim env).map Char.toLower = "production" → Settings.ofVars pairs = .ok settings →
      start settings connector validator fresh = .ok service →
      ∃ text seed, pairs.reverse.lookup "KESTREL_CONFIG_SIGNING_PRIVATE_KEY" = some text ∧
        SigningKey.Spells text seed ∧ service.issuer.key = ⟨seed, false⟩ ∧
        ∀ (world : World) (os : List (Moment × Operation)),
          (∀ t ∈ (⟨service, world⟩ : Deployment).turns os, t.before.service.Guarded seed ∧
            (∀ f, t.answer = .outcome (.ok f) → f.tier ≠ .bypass) ∧
            ∀ p, t.answer = .pack (.ok p) → p.SignedWith seed) ∧
          ∃ written, ((⟨service, world⟩ : Deployment).runFacing os).world.audit =
              world.audit ++ written ∧
            ∀ r ∈ written, r.tier ≠ .bypass) ∧
      (∀ s : Settings, s.production = false → s.validate = .ok ()) ∧
      ∀ s : Settings, s.production = true →
        (s.validate = .error .bypassInProduction ↔ s.allowBypass = true) ∧
        (s.validate = .error .ephemeralKeyInProduction ↔
          s.allowBypass = false ∧ s.keys.allowEphemeral = true) ∧
        (s.validate = .error .missingSigningKeyInProduction ↔
          s.allowBypass = false ∧ s.keys.allowEphemeral = false ∧ s.keys.privateKey = none) ∧
        (s.validate = .ok () ↔ s.allowBypass = false ∧ s.keys.allowEphemeral = false ∧
          s.keys.privateKey.isSome = true) := by
  refine ⟨?_, fun s => Settings.validate_of_not_production, fun s => Settings.validate_of_production⟩
  intro pairs env settings connector validator fresh service henv hproduction hvars hstart
  obtain ⟨hprod, hkeys, hplay, happ⟩ := Settings.ofVars_ok hvars
  rw [Vars.isProduction_ofList henv hproduction] at hprod
  obtain ⟨hbypass, hephemeral, -⟩ :=
    (Settings.validate_of_production hprod).2.2.2.1 (validate_of_start hstart)
  rw [hbypass] at hplay happ
  obtain ⟨text, seed, htext, hspells, hkey⟩ := key_of_start hstart hkeys hephemeral
  refine ⟨text, seed, htext, hspells, hkey, fun world os => ?_⟩
  have hguarded : ∀ t ∈ (⟨service, world⟩ : Deployment).turns os, t.before.service.Guarded seed := by
    intro t ht
    obtain ⟨past, m, hbefore⟩ := Deployment.mem_turns ht
    rw [hbefore]
    exact guarded_facing hstart hplay happ hkey world past m
  refine ⟨fun t ht => ⟨hguarded t ht, fun f => Turn.tier_of_outcome (hguarded t ht),
    fun p => Turn.signed_of_pack (hguarded t ht)⟩, ?_⟩
  rw [Deployment.runFacing_eq_runAmid, Deployment.audit_rounds]
  refine ⟨_, rfl, ?_⟩
  intro r hr
  obtain ⟨round, hround, hr⟩ := List.mem_filterMap.1 hr
  rw [Deployment.turns_eq_rounds] at hguarded
  exact Turn.tier_of_record (hguarded _ (List.mem_map_of_mem hround)) hr

end Service

namespace Fleet

def productionVars : List (String × String) :=
  [("KESTREL_ENV", "staging"),
    ("KESTREL_CONFIG_SIGNING_PRIVATE_KEY", "AAAAAAAAAAAAAAAAAAAAAAAAAAAAAAAAAAAAAAAAAAA="),
    ("KESTREL_ENV", " Production ")]

def productionSettings : Settings :=
  { Settings.standard with
    production := true
    keys := ⟨some "AAAAAAAAAAAAAAAAAAAAAAAAAAAAAAAAAAAAAAAAAAA=", none, false⟩ }

def productionService : Service :=
  ⟨⟨[.play (.new .standard none none), .appAttest ⟨.standard, none⟩]⟩,
    .new ⟨List.replicate 32 0, false⟩ .replace⟩

def stranger : AttestRequest := ⟨"android", "token", "device", none⟩

end Fleet

theorem Service.production_guarded_fleet :
    Service.start Fleet.productionSettings none none [] = .ok Fleet.productionService ∧
      Fleet.productionService.issuer.key = ⟨List.replicate 32 0, false⟩ ∧
      (∀ t ∈ (⟨Fleet.productionService, Fleet.world⟩ : Deployment).turns
        [(Fleet.moment, .attestClient Fleet.stranger)],
        t.answer = .outcome (.ok ⟨false, .unknown, some .missingAttestationConfig⟩) ∧
          ∀ f, t.answer = .outcome (.ok f) → f.tier ≠ .bypass) ∧
      Fleet.productionSettings.validate = .ok () := by
  have henv : Fleet.productionVars.reverse.lookup "KESTREL_ENV" = some " Production " := by
    decide +kernel
  have hname : (Text.trim " Production ").map Char.toLower = "production" := by decide +kernel
  have hvars : Settings.ofVars Fleet.productionVars = .ok Fleet.productionSettings := by
    decide +kernel
  have hkey : SigningKey.resolve Fleet.productionSettings.keys [] =
      .ok ⟨List.replicate 32 0, false⟩ := by decide +kernel
  have hstart : Service.start Fleet.productionSettings none none [] = .ok Fleet.productionService := by
    rw [Service.start, hkey]
    rfl
  obtain ⟨hguard, -, hvalidate⟩ := Service.production_guarded
  obtain ⟨text, seed, htext, -, hseed, hrun⟩ := hguard henv hname hvars hstart
  refine ⟨hstart, rfl, ?_, (hvalidate _ rfl).2.2.2.2 ⟨rfl, rfl, rfl⟩⟩
  intro t ht
  refine ⟨?_, ((hrun Fleet.world _).1 t ht).2.1⟩
  obtain rfl := List.mem_singleton.1 ht
  rfl

end RelayGate
