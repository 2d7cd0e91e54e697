import RelayGate.Proofs.Trust.AppAttest
import RelayGate.Proofs.Trust.Play
import RelayGate.Trust.Evaluator

namespace RelayGate

theorem Named.name_of_ofName? {α : Type} [Named α] {s : String} {a : α} (h : ofName? s = some a) :
    name a = s := by
  simpa using List.find?_some h

namespace Evaluator

variable (pv : PlayVerifier) (av : AppAttestVerifier) (i : AttestInput) (now : Clock)

theorem evaluate_android (h : i.platform = "android") :
    evaluate ⟨[.play pv, .appAttest av]⟩ i now =
      ((pv.attest i now).1, ⟨[.play (pv.attest i now).2, .appAttest av]⟩) := by
  have hn : (Named.ofName? i.platform : Option Platform) = some .android := by
    rw [h]
    decide
  rw [evaluate, hn]
  rfl

theorem evaluate_ios (h : i.platform = "ios") :
    evaluate ⟨[.play pv, .appAttest av]⟩ i now =
      (av.attest i now, ⟨[.play pv, .appAttest av]⟩) := by
  have hn : (Named.ofName? i.platform : Option Platform) = some .ios := by
    rw [h]
    decide
  rw [evaluate, hn]
  rfl

theorem evaluate_other (ha : i.platform ≠ "android") (hi : i.platform ≠ "ios") :
    evaluate ⟨[.play pv, .appAttest av]⟩ i now =
      (.settled (i.invalid .unknown .unsupportedPlatform now.seconds) [],
        ⟨[.play pv, .appAttest av]⟩) := by
  have hn : (Named.ofName? i.platform : Option Platform) = none := by
    cases h : (Named.ofName? i.platform : Option Platform) with
    | none => rfl
    | some platform =>
        have hname := Named.name_of_ofName? h
        cases platform with
        | android => exact absurd hname.symm ha
        | ios => exact absurd hname.symm hi
  rw [evaluate, hn]
  rfl

theorem evaluator_of_ne (h : i.platform ≠ "android") :
    (evaluate ⟨[.play pv, .appAttest av]⟩ i now).2 = ⟨[.play pv, .appAttest av]⟩ := by
  by_cases hi : i.platform = "ios"
  · rw [evaluate_ios pv av i now hi]
  · rw [evaluate_other pv av i now h hi]

variable {pv av i now}

theorem evaluate_trusted {verdict : Verdict}
    (h : (evaluate ⟨[.play pv, .appAttest av]⟩ i now).1.outcome = .ok verdict)
    (ht : needsDecoys (some verdict) = false) :
    i.platform = "android" ∧ (pv.attest i now).1.outcome = .ok verdict ∨
      i.platform = "ios" ∧ (av.attest i now).outcome = .ok verdict := by
  by_cases ha : i.platform = "android"
  · rw [evaluate_android pv av i now ha] at h
    exact .inl ⟨ha, h⟩
  · by_cases hi : i.platform = "ios"
    · rw [evaluate_ios pv av i now hi] at h
      exact .inr ⟨hi, h⟩
    · rw [evaluate_other pv av i now ha hi] at h
      obtain rfl := Except.ok.inj h
      exact nomatch ht

end Evaluator

end RelayGate
