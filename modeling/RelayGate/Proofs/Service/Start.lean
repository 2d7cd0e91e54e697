import RelayGate.Proofs.Service.Evaluation

/-!
What a start leaves for good. Main statement: whatever happens, a service goes on with the policies that
it was started with, and its verifier for Android with what came of connecting for the first client.
-/

namespace RelayGate

def Operation.isForAndroid (o : Operation) : Bool :=
  o.evaluated?.any fun i => i.platform == "android"

/-- The moment at which a client for Android was evaluated first. -/
def Moment.firstAndroid? (past : List (Moment × Operation)) : Option Moment :=
  (past.find? fun e => e.2.isForAndroid).map Prod.fst

/-- The backend that answers a client for Android: the one that this client is the first to be connected
to, or what has become of the one that the first client was connected to at its own moment. -/
inductive Moment.Answers (m : Moment) (credentials : Option Credentials)
    (past : List (Moment × Operation)) : PlayBackend → Prop
  | first {backend : PlayBackend} (hnone : firstAndroid? past = none)
      (hconnect : m.connector credentials = .ok backend) : Answers m credentials past backend
  | later {opening : Moment} {backend : PlayBackend} (hfirst : firstAndroid? past = some opening)
      (hconnect : opening.connector credentials = .ok backend) : Answers m credentials past m.decode

variable {settings : Settings} {connector : Option PlayConnector} {validator : Option Validator}

structure PlayVerifier.Stems (settings : Settings) (connector : Option PlayConnector)
    (past : List (Moment × Operation)) (v : PlayVerifier) : Prop where
  policy : v.policy = settings.play
  credentials : v.credentials = settings.credentials
  configured : v.connector.isSome = connector.isSome
  untried : settings.play.package.isSome = true → connector.isSome = true →
    v.connection = .untried → Moment.firstAndroid? past = none
  connected : ∀ backend, v.connection = .connected backend → ∃ opening earlier,
    Moment.firstAndroid? past = some opening ∧ opening.connector settings.credentials = .ok earlier

structure AppAttestVerifier.Stems (settings : Settings) (validator : Option Validator)
    (v : AppAttestVerifier) : Prop where
  policy : v.policy = settings.appAttest
  configured : v.validator.isSome = validator.isSome

structure Service.Stems (settings : Settings) (connector : Option PlayConnector)
    (validator : Option Validator) (past : List (Moment × Operation)) (s : Service) : Prop where
  issuer : s.issuer.policy = settings.decoyPolicy
  verifiers : ∃ pv av, s.evaluator = ⟨[.play pv, .appAttest av]⟩ ∧
    pv.Stems settings connector past ∧ av.Stems settings validator

theorem Service.start_ok {fresh : Bytes} {s : Service}
    (h : Service.start settings connector validator fresh = .ok s) :
    ∃ key, SigningKey.resolve settings.keys fresh = .ok key ∧ s = {
      evaluator := ⟨[.play (.new settings.play connector settings.credentials),
        .appAttest ⟨settings.appAttest, validator⟩]⟩
      issuer := ⟨key, settings.decoyPolicy, settings.maxEndpoints, settings.gate⟩ } := by
  rw [start] at h
  split at h
  · exact nomatch h
  · exact nomatch h
  · next key _ hkey => exact ⟨key, hkey, (Except.ok.inj h).symm⟩

theorem Service.stems_start {fresh : Bytes} {s : Service}
    (h : Service.start settings connector validator fresh = .ok s) :
    s.Stems settings connector validator [] := by
  obtain ⟨key, -, rfl⟩ := Service.start_ok h
  refine ⟨rfl, _, _, rfl, ?_, ⟨rfl, rfl⟩⟩
  exact {
    policy := rfl
    credentials := rfl
    configured := rfl
    untried := fun _ _ _ => rfl
    connected := fun backend hb => nomatch hb }

variable {past : List (Moment × Operation)} {m : Moment} {o : Operation}

namespace Moment

theorem firstAndroid?_concat (past : List (Moment × Operation)) (m : Moment) (o : Operation) :
    firstAndroid? (past ++ [(m, o)]) =
      (firstAndroid? past).or (if o.isForAndroid then some m else none) := by
  rw [firstAndroid?, firstAndroid?, List.find?_append, Option.map_or]
  cases ho : o.isForAndroid <;> simp [ho]

theorem connection_eq_untried {c : PlayConnection} (h : m.connection c = .untried) :
    c = .untried := by
  cases c with
  | untried => rfl
  | failed | connected => exact nomatch h

theorem connection_eq_connected {c : PlayConnection} {backend : PlayBackend}
    (h : m.connection c = .connected backend) :
    backend = m.decode ∧ ∃ earlier, c = .connected earlier := by
  cases c with
  | connected earlier => exact ⟨(PlayConnection.connected.inj h).symm, earlier, rfl⟩
  | untried | failed => exact nomatch h

end Moment

namespace PlayVerifier.Stems

variable {v : PlayVerifier}

theorem configured_play (h : v.Stems settings connector past) (m : Moment) :
    (m.play v).connector.isSome = connector.isSome := by
  rw [← h.configured, Moment.play, Option.isSome_map]

theorem answers (h : v.Stems settings connector past) (hpackage : settings.play.package.isSome = true)
    (hconnector : connector.isSome = true) {backend : PlayBackend}
    (hr : (m.play v).Reaches backend) : m.Answers settings.credentials past backend := by
  rcases hr with hconnected | ⟨huntried, c, hc, hok⟩
  · obtain ⟨rfl, earlier, he⟩ := Moment.connection_eq_connected hconnected
    obtain ⟨opening, _, hfirst, hopen⟩ := h.connected earlier he
    exact .later hfirst hopen
  · obtain ⟨-, -, rfl⟩ := Option.map_eq_some_iff.1 hc
    have hok : m.connector v.credentials = .ok backend := hok
    rw [h.credentials] at hok
    exact .first (h.untried hpackage hconnector (Moment.connection_eq_untried huntried)) hok

theorem connected_concat (h : v.Stems settings connector past) (m : Moment) (o : Operation)
    {backend : PlayBackend} (hb : (m.play v).connection = .connected backend) :
    ∃ opening earlier, Moment.firstAndroid? (past ++ [(m, o)]) = some opening ∧
      opening.connector settings.credentials = .ok earlier := by
  obtain ⟨-, earlier, he⟩ := Moment.connection_eq_connected hb
  obtain ⟨opening, earlier, hfirst, hopen⟩ := h.connected earlier he
  refine ⟨opening, earlier, ?_, hopen⟩
  rw [Moment.firstAndroid?_concat, hfirst, Option.some_or]

theorem play (h : v.Stems settings connector past) (m : Moment) (ho : o.isForAndroid = false) :
    (m.play v).Stems settings connector (past ++ [(m, o)]) where
  policy := h.policy
  credentials := h.credentials
  configured := h.configured_play m
  untried hpackage hconnector hu := by
    have hnone := h.untried hpackage hconnector (Moment.connection_eq_untried hu)
    rw [Moment.firstAndroid?_concat, hnone, ho]
    rfl
  connected backend hb := h.connected_concat m o hb

theorem attest (h : v.Stems settings connector past) (m : Moment) (ho : o.isForAndroid = true)
    (i : AttestInput) (now : Clock) :
    ((m.play v).attest i now).2.Stems settings connector (past ++ [(m, o)]) := by
  obtain ⟨c, hsettles, hafter⟩ := (m.play v).settles_attest i now
  have hpolicy : (m.play v).policy = settings.play := h.policy
  have hconfigured := h.configured_play m
  rw [hafter]
  refine ⟨h.policy, h.credentials, hconfigured, ?_, ?_⟩
  · -- A verifier that is configured has tried by now.
    intro hpackage hconnector hu
    cases hsettles with
    | kept hkept =>
        rw [← hpolicy] at hpackage
        rw [← hconfigured] at hconnector
        rcases hkept with hnone | hnone | htried
        · rw [hnone] at hpackage
          exact nomatch hpackage
        · rw [hnone] at hconnector
          exact nomatch hconnector
        · exact absurd hu htried
    | refused | admitted => exact nomatch hu
  · intro backend hb
    cases hsettles with
    | kept hkept => exact h.connected_concat m o hb
    | refused => exact nomatch hb
    | @admitted package c backend' hpackage hconnector huntried hadmitted =>
        obtain ⟨-, -, rfl⟩ := Option.map_eq_some_iff.1 hconnector
        have hadmitted : m.connector v.credentials = .ok backend' := hadmitted
        rw [h.credentials] at hadmitted
        have hnone : Moment.firstAndroid? past = none := by
          apply h.untried _ _ (Moment.connection_eq_untried huntried)
          · rw [← hpolicy, hpackage]
            rfl
          · rw [← hconfigured, hconnector]
            rfl
        refine ⟨m, backend', ?_, hadmitted⟩
        rw [Moment.firstAndroid?_concat, hnone, ho]
        rfl

end PlayVerifier.Stems

theorem AppAttestVerifier.Stems.appAttest {v : AppAttestVerifier} (h : v.Stems settings validator)
    (m : Moment) : (m.appAttest v).Stems settings validator where
  policy := h.policy
  configured := by rw [← h.configured, Moment.appAttest, Option.isSome_map]

namespace Service.Stems

theorem evaluator_facing {s : Service} (h : s.Stems settings connector validator past)
    (m : Moment) : ∃ pv av, (m.service s).evaluator = ⟨[.play (m.play pv), .appAttest (m.appAttest av)]⟩ ∧
      pv.Stems settings connector past ∧ av.Stems settings validator := by
  obtain ⟨pv, av, he, hp, ha⟩ := h.verifiers
  refine ⟨pv, av, ?_, hp, ha⟩
  rw [Moment.service, he]
  rfl

theorem step {s : Deployment} (h : s.service.Stems settings connector validator past)
    (m : Moment) (o : Operation) :
    ((s.facing m).step o).2.service.Stems settings connector validator (past ++ [(m, o)]) := by
  obtain ⟨pv, av, he, hp, ha⟩ := h.evaluator_facing m
  have he : (s.facing m).service.evaluator = ⟨[.play (m.play pv), .appAttest (m.appAttest av)]⟩ := he
  rw [Deployment.service_step]
  cases ho : o.evaluated? with
  | none =>
      have hother : o.isForAndroid = false := by rw [Operation.isForAndroid, ho]; rfl
      exact ⟨h.issuer, m.play pv, m.appAttest av, he, hp.play m hother, ha.appAttest m⟩
  | some i =>
      rw [Service.attended, he]
      by_cases hi : i.platform = "android"
      · have handroid : o.isForAndroid = true := by
          rw [Operation.isForAndroid, ho]
          exact beq_iff_eq.2 hi
        rw [Evaluator.evaluate_android _ _ _ _ hi]
        exact ⟨h.issuer, _, _, rfl, hp.attest m handroid i _, ha.appAttest m⟩
      · have hother : o.isForAndroid = false := by
          rw [Operation.isForAndroid, ho]
          exact beq_eq_false_iff_ne.2 hi
        rw [Evaluator.evaluator_of_ne _ _ _ _ hi]
        exact ⟨h.issuer, _, _, rfl, hp.play m hother, ha.appAttest m⟩

theorem run {s : Deployment} (h : s.service.Stems settings connector validator past)
    (os : List (Moment × Operation)) :
    (s.runFacing os).service.Stems settings connector validator (past ++ os) := by
  induction os generalizing s past with
  | nil =>
      rw [List.append_nil]
      exact h
  | cons mo os ih =>
      have hs := ih (h.step mo.1 mo.2)
      rw [List.append_assoc] at hs
      exact hs

end Service.Stems

/-- The verifiers face these services already, and whatever they connect to answers as these do. -/
structure Moment.Holds (m : Moment) (s : Service) : Prop where
  verifiers : ∃ pv av, s.evaluator = ⟨[.play pv, .appAttest av]⟩ ∧ m.play pv = pv ∧
    m.appAttest av = av ∧ ∀ backend, m.connector pv.credentials = .ok backend → backend = m.decode

namespace Moment.Holds

theorem service_eq {s : Service} (h : m.Holds s) : m.service s = s := by
  obtain ⟨⟨vs⟩, issuer⟩ := s
  obtain ⟨pv, av, he, hp, ha, -⟩ := h.verifiers
  obtain rfl := Evaluator.mk.inj he
  rw [Moment.service, List.map_cons, List.map_cons, Moment.verifier, Moment.verifier, hp, ha]
  rfl

theorem start {fresh : Bytes} {s : Service}
    (h : Service.start settings connector validator fresh = .ok s)
    (hc : ∀ c ∈ connector, m.connector = c) (hv : ∀ v ∈ validator, m.validator = v)
    (hd : ∀ backend, m.connector settings.credentials = .ok backend → backend = m.decode) :
    m.Holds s := by
  obtain ⟨key, -, rfl⟩ := Service.start_ok h
  refine ⟨_, _, rfl, ?_, ?_, hd⟩
  · cases connector with
    | none => rfl
    | some c =>
        rw [Moment.play, PlayVerifier.new, Option.map_some, hc c rfl]
        rfl
  · cases validator with
    | none => rfl
    | some v => rw [Moment.appAttest, Option.map_some, hv v rfl]

theorem play_attest {pv : PlayVerifier} (hp : m.play pv = pv)
    (hd : ∀ backend, m.connector pv.credentials = .ok backend → backend = m.decode)
    (i : AttestInput) (now : Clock) :
    m.play (pv.attest i now).2 = (pv.attest i now).2 ∧
      (pv.attest i now).2.credentials = pv.credentials := by
  obtain ⟨c, hsettles, hafter⟩ := pv.settles_attest i now
  have hkeep : m.connection c = c := by
    cases hsettles with
    | kept => exact congrArg PlayVerifier.connection hp
    | refused => rfl
    | @admitted package connector backend hpackage hconnector huntried hadmitted =>
        have hsame : pv.connector.map (fun _ => m.connector) = pv.connector :=
          congrArg PlayVerifier.connector hp
        rw [hconnector] at hsame
        rw [← Option.some.inj hsame] at hadmitted
        rw [hd backend hadmitted]
        rfl
  rw [hafter]
  refine ⟨?_, rfl⟩
  rw [Moment.play, hkeep]
  exact congrArg (fun o => PlayVerifier.mk pv.policy o pv.credentials c)
    (congrArg PlayVerifier.connector hp)

theorem step {s : Deployment} (h : m.Holds s.service) (o : Operation) :
    m.Holds (s.step o).2.service := by
  rw [Deployment.service_step]
  cases o.evaluated? with
  | none => exact h
  | some i =>
      obtain ⟨pv, av, he, hp, ha, hd⟩ := h.verifiers
      rw [Service.attended, he]
      by_cases hi : i.platform = "android"
      · obtain ⟨hplay, hcredentials⟩ := play_attest hp hd i s.world.clock
        rw [Evaluator.evaluate_android _ _ _ _ hi]
        refine ⟨_, av, rfl, hplay, ha, ?_⟩
        rwa [hcredentials]
      · rw [Evaluator.evaluator_of_ne _ _ _ _ hi]
        exact ⟨pv, av, rfl, hp, ha, hd⟩

end Moment.Holds

end RelayGate
