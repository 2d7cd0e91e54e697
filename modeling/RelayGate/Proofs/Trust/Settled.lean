import RelayGate.Proofs.Trust.Dispatch

/-!
Verifiers that have tried to connect. Main statement: an evaluator comes to the same outcome whether
the connection of its verifiers has been tried before or not, and no evaluation changes what the
connection is once it has been tried.
-/

namespace RelayGate

namespace PlayVerifier

/-- The verifier as it is once it has tried to connect. -/
def settled (v : PlayVerifier) : PlayVerifier :=
  match v.connector with
  | some connector => { v with connection := (v.establish connector).1 }
  | none => v

theorem settled_settled (v : PlayVerifier) : v.settled.settled = v.settled := by
  obtain ⟨policy, _ | connector, credentials, _ | _ | backend⟩ := v
  -- Only a connection that could be tried and has not been is another one afterwards.
  case some.untried => cases hc : connector credentials <;> simp only [settled, establish, hc]
  all_goals rfl

theorem attest_eq_self_or_settled (v : PlayVerifier) (i : AttestInput) (now : Clock) :
    (v.attest i now).2 = v ∨ (v.attest i now).2 = v.settled := by
  cases hpackage : v.policy.package with
  | none => exact .inl (by simp only [attest, hpackage])
  | some package =>
      cases hconnector : v.connector with
      | none => exact .inl (by simp only [attest, hpackage, hconnector])
      | some connector =>
          right
          simp only [attest, settled, hpackage, hconnector]
          split <;> rfl

theorem settled_attest (v : PlayVerifier) (i : AttestInput) (now : Clock) :
    (v.attest i now).2.settled = v.settled := by
  rcases v.attest_eq_self_or_settled i now with h | h
  · rw [h]
  · rw [h, settled_settled]

theorem outcome_settled (v : PlayVerifier) (i : AttestInput) (now : Clock) :
    (v.settled.attest i now).1.outcome = (v.attest i now).1.outcome := by
  obtain ⟨policy, _ | connector, credentials, _ | _ | backend⟩ := v
  case some.untried =>
    cases hpackage : policy.package with
    | none => cases hc : connector credentials <;> simp only [attest, settled, hpackage] <;> rfl
    | some package =>
        cases hc : connector credentials <;>
          simp only [attest, settled, establish, hpackage, hc] <;> rfl
  all_goals rfl

end PlayVerifier

namespace Verifier

def settled : Verifier → Verifier
  | play v => play v.settled
  | appAttest v => appAttest v

theorem platform_settled (v : Verifier) : v.settled.platform = v.platform := by
  cases v <;> rfl

theorem settled_attest (v : Verifier) (i : AttestInput) (now : Clock) :
    (v.attest i now).2.settled = v.settled := by
  cases v with
  | play v => exact congrArg play (v.settled_attest i now)
  | appAttest v => rfl

theorem outcome_settled (v : Verifier) (i : AttestInput) (now : Clock) :
    (v.settled.attest i now).1.outcome = (v.attest i now).1.outcome := by
  cases v with
  | play v => exact v.outcome_settled i now
  | appAttest v => rfl

end Verifier

namespace Evaluator

def settled (e : Evaluator) : Evaluator := ⟨e.verifiers.map Verifier.settled⟩

theorem verifierFor_settled (e : Evaluator) (platform : String) :
    e.settled.verifierFor platform = (e.verifierFor platform).map Verifier.settled := by
  rw [verifierFor, verifierFor]
  cases (Named.ofName? platform : Option Platform) with
  | none => rfl
  | some p =>
      simp only [Option.bind_some, settled, List.find?_map, Function.comp_def,
        Verifier.platform_settled]

theorem outcome_settled (e : Evaluator) (i : AttestInput) (now : Clock) :
    (e.settled.evaluate i now).1.outcome = (e.evaluate i now).1.outcome := by
  rw [attempt_evaluate, attempt_evaluate, verifierFor_settled]
  cases e.verifierFor i.platform with
  | none => rfl
  | some v => exact v.outcome_settled i now

theorem settled_attestFirst {p : Platform} {i : AttestInput} {now : Clock} {vs : List Verifier}
    {r : Attempt × List Verifier} (h : attestFirst p i now vs = some r) :
    r.2.map Verifier.settled = vs.map Verifier.settled := by
  induction vs generalizing r with
  | nil => exact nomatch h
  | cons v vs ih =>
      rw [attestFirst] at h
      split at h
      · obtain rfl := Option.some.inj h
        rw [List.map_cons, List.map_cons, v.settled_attest]
      · obtain ⟨rest, hrest, rfl⟩ := Option.map_eq_some_iff.1 h
        rw [List.map_cons, List.map_cons, ih hrest]

theorem settled_evaluate (e : Evaluator) (i : AttestInput) (now : Clock) :
    (e.evaluate i now).2.settled = e.settled := by
  rw [evaluate]
  split
  · next attempt vs hfirst =>
      obtain ⟨p, -, hp⟩ := Option.bind_eq_some_iff.1 hfirst
      exact congrArg Evaluator.mk (settled_attestFirst hp)
  · rfl

end Evaluator

end RelayGate
