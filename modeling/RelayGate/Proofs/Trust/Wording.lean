import RelayGate.Proofs.Trust.Play
import RelayGate.Trust.Evaluator

namespace RelayGate

def AttestFailure.terse : AttestFailure → AttestFailure
  | backend _ => backend ""
  | timeout after => timeout after
  | appAttest _ => appAttest ""

theorem AttestFailure.code_terse (e : AttestFailure) : e.terse.code = e.code := by
  cases e <;> rfl

namespace Reply

variable {α : Type}

def terse (r : Reply α) : Reply α := { r with answer := r.answer.mapError AttestFailure.terse }

theorem within_terse (r : Reply α) (timeout : Duration) :
    r.terse.within timeout = (r.within timeout).mapError AttestFailure.terse := by
  rw [within, within]
  by_cases hlate : timeout.millis < r.delay.millis
  · rw [if_pos hlate]
    exact if_pos hlate
  · rw [if_neg hlate]
    exact if_neg hlate

end Reply

def Attempt.terse (a : Attempt) : Attempt :=
  { a with outcome := a.outcome.mapError AttestFailure.terse }

def PlayBackend.terse (b : PlayBackend) : PlayBackend := fun package token => (b package token).terse

def PlayConnector.terse (c : PlayConnector) : PlayConnector := fun credentials =>
  ((c credentials).map PlayBackend.terse).mapError AttestFailure.terse

def PlayConnection.terse : PlayConnection → PlayConnection
  | untried => untried
  | failed => failed
  | connected backend => connected backend.terse

namespace PlayVerifier

def terse (v : PlayVerifier) : PlayVerifier :=
  { v with connector := v.connector.map PlayConnector.terse, connection := v.connection.terse }

theorem consult_terse (v : PlayVerifier) (backend : PlayBackend) (package : String) (i : AttestInput)
    (now : Clock) : v.terse.consult backend.terse package i now =
      (v.consult backend package i now).mapError AttestFailure.terse := by
  have hreply := (backend package i.token).within_terse v.policy.timeout
  rw [consult, consult, PlayBackend.terse, terse, hreply]
  cases (backend package i.token).within v.policy.timeout <;> rfl

theorem attest_terse (v : PlayVerifier) (i : AttestInput) (now : Clock) :
    v.terse.attest i now = Prod.map Attempt.terse terse (v.attest i now) := by
  -- By the course of the attempt: without its words an error is still an error, so that the course
  -- of the terse verifier is the same.
  cases hpackage : v.policy.package with
  | none =>
      rw [attest_unconfigured (.inl hpackage), attest_unconfigured (v := v.terse) (.inl hpackage)]
      rfl
  | some package =>
      cases hconnector : v.connector with
      | none =>
          have hterse : v.terse.connector = none := congrArg (Option.map PlayConnector.terse) hconnector
          rw [attest_unconfigured (.inr hconnector), attest_unconfigured (.inr hterse)]
          rfl
      | some connector =>
          have hterse : v.terse.connector = some connector.terse :=
            congrArg (Option.map PlayConnector.terse) hconnector
          cases hconnection : v.connection with
          | untried =>
              have huntried : v.terse.connection = .untried := congrArg PlayConnection.terse hconnection
              cases hanswer : connector v.credentials with
              | error e =>
                  have hrefused : connector.terse v.credentials = .error e.terse := by
                    rw [PlayConnector.terse, hanswer]
                    rfl
                  rw [attest_refused hpackage hconnector hconnection hanswer,
                    attest_refused (v := v.terse) hpackage hterse huntried hrefused]
                  rfl
              | ok backend =>
                  have hadmitted : connector.terse v.credentials = .ok backend.terse := by
                    rw [PlayConnector.terse, hanswer]
                    rfl
                  rw [attest_admitted hpackage hconnector hconnection hanswer,
                    attest_admitted (v := v.terse) hpackage hterse huntried hadmitted, consult_terse]
                  rfl
          | failed =>
              have hfailed : v.terse.connection = .failed := congrArg PlayConnection.terse hconnection
              rw [attest_failed hconnection, attest_failed hfailed]
              rfl
          | connected backend =>
              have hconnected : v.terse.connection = .connected backend.terse :=
                congrArg PlayConnection.terse hconnection
              rw [attest_connected hpackage hconnector hconnection,
                attest_connected (v := v.terse) hpackage hterse hconnected, consult_terse]
              rfl

end PlayVerifier

def Validator.terse (v : Validator) : Validator := fun request => (v request).terse

namespace AppAttestVerifier

def terse (v : AppAttestVerifier) : AppAttestVerifier :=
  { v with validator := v.validator.map Validator.terse }

theorem consult_terse (v : AppAttestVerifier) (validator : Validator) (request : ValidationRequest)
    (i : AttestInput) (now : Clock) : v.terse.consult validator.terse request i now =
      (v.consult validator request i now).mapError AttestFailure.terse := by
  have hreply := (validator request).within_terse v.policy.timeout
  rw [consult, consult, Validator.terse, terse, hreply]
  cases (validator request).within v.policy.timeout <;> rfl

theorem attest_terse (v : AppAttestVerifier) (i : AttestInput) (now : Clock) :
    v.terse.attest i now = (v.attest i now).terse := by
  obtain ⟨policy, validator⟩ := v
  rw [attest, attest]
  cases suppliedKeyId i with
  | none => rfl
  | some keyId =>
      dsimp only [terse]
      cases policy.appId with
      | none => rfl
      | some appId =>
          cases validator with
          | none => rfl
          | some validator =>
              rw [Option.map_some]
              dsimp only
              cases AttestEnvelope.parse i.token keyId with
              | error e => rfl
              | ok envelope =>
                  exact congrArg (Attempt.mk · _)
                    (consult_terse ⟨policy, some validator⟩ validator _ i now)

end AppAttestVerifier

namespace Verifier

def terse : Verifier → Verifier
  | play v => play v.terse
  | appAttest v => appAttest v.terse

theorem platform_terse (v : Verifier) : v.terse.platform = v.platform := by
  cases v <;> rfl

theorem attest_terse (v : Verifier) (i : AttestInput) (now : Clock) :
    v.terse.attest i now = Prod.map Attempt.terse terse (v.attest i now) := by
  cases v with
  | play v =>
      rw [terse, attest, v.attest_terse]
      rfl
  | appAttest v =>
      rw [terse, attest, v.attest_terse]
      rfl

end Verifier

namespace Evaluator

def terse (e : Evaluator) : Evaluator := ⟨e.verifiers.map Verifier.terse⟩

theorem attestFirst_terse (p : Platform) (i : AttestInput) (now : Clock) (vs : List Verifier) :
    attestFirst p i now (vs.map Verifier.terse) =
      (attestFirst p i now vs).map (Prod.map Attempt.terse (List.map Verifier.terse)) := by
  induction vs with
  | nil => rfl
  | cons v vs ih =>
      rw [List.map_cons, attestFirst, attestFirst, v.platform_terse, v.attest_terse, ih]
      by_cases hv : v.platform = p
      · rw [if_pos hv, if_pos hv]
        rfl
      · rw [if_neg hv, if_neg hv, Option.map_map, Option.map_map]
        rfl

theorem evaluate_terse (e : Evaluator) (i : AttestInput) (now : Clock) :
    e.terse.evaluate i now = Prod.map Attempt.terse terse (e.evaluate i now) := by
  rw [evaluate, evaluate]
  cases (Named.ofName? i.platform : Option Platform) with
  | none => rfl
  | some p =>
      rw [Option.bind_some, Option.bind_some, terse, attestFirst_terse]
      cases attestFirst p i now e.verifiers <;> rfl

end Evaluator

end RelayGate
