import RelayGate.Proofs.Trust.Play

namespace RelayGate

def BackendCall.isConnect : BackendCall → Bool
  | connect _ => true
  | decode _ _ => false
  | validate _ => false

/-- A client, and what has become by then of the services behind the verifier. -/
structure Visit where
  connector : PlayConnector → PlayConnector
  /-- What has become of a backend that was connected to before. -/
  backend : PlayBackend → PlayBackend
  input : AttestInput
  now : Clock

namespace Visit

def still (i : AttestInput) (now : Clock) : Visit := ⟨id, id, i, now⟩

def connection (x : Visit) : PlayConnection → PlayConnection
  | .untried => .untried
  | .failed => .failed
  | .connected backend => .connected (x.backend backend)

def declined (x : Visit) (p : PlayPolicy) : Verdict :=
  if p.allowBypass then .valid x.input.platform x.input.device .bypass x.now.seconds
  else .invalid x.input.platform x.input.device .unknown .missingAttestationConfig x.now.seconds

def answered (x : Visit) (p : PlayPolicy) (package : String) (backend : PlayBackend) :
    Except AttestFailure Verdict :=
  ((backend package x.input.token).within p.timeout).map fun payload =>
    p.judge payload package x.input x.now

end Visit

namespace PlayVerifier

def meet (v : PlayVerifier) (x : Visit) : PlayVerifier :=
  { v with connector := v.connector.map x.connector, connection := x.connection v.connection }

def attend (v : PlayVerifier) : List Visit → List Attempt
  | [] => []
  | x :: xs =>
    let result := (v.meet x).attest x.input x.now
    result.1 :: result.2.attend xs

def attestEach (v : PlayVerifier) : List (AttestInput × Clock) → List Attempt
  | [] => []
  | (i, now) :: rest =>
    let result := v.attest i now
    result.1 :: result.2.attestEach rest

theorem meet_still (v : PlayVerifier) (i : AttestInput) (now : Clock) : v.meet (.still i now) = v := by
  obtain ⟨policy, _ | connector, credentials, _ | _ | backend⟩ := v <;> rfl

theorem attestEach_eq_attend (v : PlayVerifier) (clients : List (AttestInput × Clock)) :
    v.attestEach clients = v.attend (clients.map fun c => .still c.1 c.2) := by
  induction clients generalizing v with
  | nil => rfl
  | cons c rest ih =>
      rw [List.map_cons, attend, meet_still, attestEach, ih]
      rfl

variable {v : PlayVerifier} {package : String} {connector : PlayConnector} {backend : PlayBackend}

theorem unconfigured_meet (v : PlayVerifier) (x : Visit) :
    (v.meet x).unconfigured x.input x.now = x.declined v.policy := rfl

theorem consult_meet (v : PlayVerifier) (x : Visit) (backend : PlayBackend) (package : String) :
    (v.meet x).consult backend package x.input x.now = x.answered v.policy package backend := by
  rw [consult, Visit.answered, meet]
  cases (backend package x.input.token).within v.policy.timeout <;> rfl

def decline (p : PlayPolicy) (visits : List Visit) : List Attempt :=
  visits.map fun x => .settled (x.declined p) []

def answerEach (p : PlayPolicy) (package : String) (backend : PlayBackend) : List Visit → List Attempt
  | [] => []
  | x :: xs =>
    ⟨x.answered p package (x.backend backend), [.decode package x.input.token]⟩ ::
      answerEach p package (x.backend backend) xs

theorem attend_unconfigured (h : v.policy.package = none ∨ v.connector = none) (visits : List Visit) :
    v.attend visits = decline v.policy visits := by
  induction visits generalizing v with
  | nil => rfl
  | cons x xs ih =>
      have hmeet : (v.meet x).policy.package = none ∨ (v.meet x).connector = none :=
        h.imp id fun hconnector => Option.map_eq_none_iff.2 hconnector
      rw [attend, attest_unconfigured hmeet, unconfigured_meet]
      exact congrArg (_ :: ·) (ih hmeet)

theorem attend_failed (h : v.connection = .failed) (visits : List Visit) :
    v.attend visits = decline v.policy visits := by
  induction visits generalizing v with
  | nil => rfl
  | cons x xs ih =>
      have hmeet : (v.meet x).connection = .failed := congrArg x.connection h
      rw [attend, attest_failed hmeet, unconfigured_meet]
      exact congrArg (_ :: ·) (ih hmeet)

theorem attend_connected (hpackage : v.policy.package = some package)
    (hconnector : v.connector = some connector) (h : v.connection = .connected backend)
    (visits : List Visit) : v.attend visits = answerEach v.policy package backend visits := by
  induction visits generalizing v connector backend with
  | nil => rfl
  | cons x xs ih =>
      have hmeet : (v.meet x).connection = .connected (x.backend backend) := congrArg x.connection h
      have hstill : (v.meet x).connector = some (x.connector connector) :=
        congrArg (Option.map x.connector) hconnector
      rw [attend, attest_connected (v := v.meet x) hpackage hstill hmeet, consult_meet]
      exact congrArg (_ :: ·) (ih (v := v.meet x) hpackage hstill hmeet)

variable {p : PlayPolicy} {credentials : Option Credentials} {first : Visit}

theorem attend_refused {e : AttestFailure} (hpackage : p.package = some package)
    (hrefused : first.connector connector credentials = .error e) (rest : List Visit) :
    (new p (some connector) credentials).attend (first :: rest) =
      .settled (first.declined p) [.connect credentials] :: decline p rest := by
  have hfirst := attest_refused (v := (new p (some connector) credentials).meet first) hpackage rfl
    rfl hrefused first.input first.now
  -- What is left of the first attempt is a connection that failed, and is not tried again.
  rw [attend, hfirst, unconfigured_meet]
  exact congrArg (_ :: ·) (attend_failed rfl rest)

theorem attend_admitted (hpackage : p.package = some package)
    (hadmitted : first.connector connector credentials = .ok backend) (rest : List Visit) :
    (new p (some connector) credentials).attend (first :: rest) =
      ⟨first.answered p package backend, [.connect credentials, .decode package first.input.token]⟩ ::
        answerEach p package backend rest := by
  have hfirst := attest_admitted (v := (new p (some connector) credentials).meet first) hpackage rfl
    rfl hadmitted first.input first.now
  rw [attend, hfirst, consult_meet]
  exact congrArg (_ :: ·) (attend_connected hpackage rfl rfl rest)

/-- What the attempts of a run come to, by what comes of the first attempt to connect. -/
inductive Course (p : PlayPolicy) :
    Option PlayConnector → Option Credentials → List Visit → List Attempt → Prop
  | unvisited (connector : Option PlayConnector) (credentials : Option Credentials) :
      Course p connector credentials [] []
  | unconfigured {connector : Option PlayConnector} (credentials : Option Credentials)
      (visits : List Visit) (h : p.package = none ∨ connector = none) :
      Course p connector credentials visits (decline p visits)
  | refused {connector : PlayConnector} {credentials : Option Credentials} {first : Visit}
      {package : String} {e : AttestFailure} (rest : List Visit) (hpackage : p.package = some package)
      (hrefused : first.connector connector credentials = .error e) :
      Course p (some connector) credentials (first :: rest)
        (.settled (first.declined p) [.connect credentials] :: decline p rest)
  | admitted {connector : PlayConnector} {credentials : Option Credentials} {first : Visit}
      {package : String} {backend : PlayBackend} (rest : List Visit)
      (hpackage : p.package = some package)
      (hadmitted : first.connector connector credentials = .ok backend) :
      Course p (some connector) credentials (first :: rest)
        (⟨first.answered p package backend, [.connect credentials, .decode package first.input.token]⟩ ::
          answerEach p package backend rest)

theorem course_attend (p : PlayPolicy) (connector : Option PlayConnector)
    (credentials : Option Credentials) (visits : List Visit) :
    Course p connector credentials visits ((new p connector credentials).attend visits) := by
  cases hpackage : p.package with
  | none =>
      rw [attend_unconfigured (.inl hpackage)]
      exact .unconfigured credentials visits (.inl hpackage)
  | some package =>
      cases connector with
      | none =>
          rw [attend_unconfigured (.inr rfl)]
          exact .unconfigured credentials visits (.inr rfl)
      | some connector =>
          cases visits with
          | nil => exact .unvisited (some connector) credentials
          | cons first rest =>
              cases hc : first.connector connector credentials with
              | error e =>
                  rw [attend_refused hpackage hc]
                  exact .refused rest hpackage hc
              | ok backend =>
                  rw [attend_admitted hpackage hc]
                  exact .admitted rest hpackage hc

def connects (attempts : List Attempt) : List BackendCall :=
  (attempts.flatMap Attempt.calls).filter BackendCall.isConnect

theorem connects_cons (a : Attempt) (attempts : List Attempt) :
    connects (a :: attempts) = a.calls.filter BackendCall.isConnect ++ connects attempts := by
  rw [connects, List.flatMap_cons, List.filter_append]
  rfl

theorem connects_decline (p : PlayPolicy) (visits : List Visit) : connects (decline p visits) = [] := by
  induction visits with
  | nil => rfl
  | cons x xs ih => exact (connects_cons _ _).trans ih

theorem connects_answerEach (p : PlayPolicy) (package : String) (backend : PlayBackend)
    (visits : List Visit) : connects (answerEach p package backend visits) = [] := by
  induction visits generalizing backend with
  | nil => rfl
  | cons x xs ih => exact (connects_cons _ _).trans (ih (x.backend backend))

theorem Course.connects_eq {connector : Option PlayConnector} {visits : List Visit}
    {attempts : List Attempt} (h : Course p connector credentials visits attempts) :
    connects attempts =
      if p.package.isSome && connector.isSome && !visits.isEmpty then [.connect credentials]
      else [] := by
  cases h with
  | unvisited => simp [connects]
  | unconfigured _ _ h => rcases h with h | h <;> simp [connects_decline, h]
  | refused rest hpackage =>
      rw [connects_cons, connects_decline, hpackage]
      rfl
  | admitted rest hpackage =>
      rw [connects_cons, connects_answerEach, hpackage]
      rfl

/-- However the services change and whoever asks: a verifier connects once, with its credentials, if
it has a package and a connector and is asked at all, and otherwise never; if this fails, every
attempt is declined and nothing is decoded; if it succeeds, every attempt asks that backend, once. A
run in which the services stay what they are is among these runs. -/
theorem connects_once (p : PlayPolicy) (connector : Option PlayConnector)
    (credentials : Option Credentials) :
    (∀ visits, Course p connector credentials visits ((new p connector credentials).attend visits) ∧
      connects ((new p connector credentials).attend visits) =
        if p.package.isSome && connector.isSome && !visits.isEmpty then [.connect credentials]
        else []) ∧
    ∀ clients, (new p connector credentials).attestEach clients =
      (new p connector credentials).attend (clients.map fun c => .still c.1 c.2) := by
  refine ⟨fun visits => ?_, attestEach_eq_attend _⟩
  have hcourse := course_attend p connector credentials visits
  exact ⟨hcourse, hcourse.connects_eq⟩

end PlayVerifier

end RelayGate
