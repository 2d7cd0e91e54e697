import RelayGate.Proofs.Binary64
import RelayGate.Proofs.Pack.Wire
import RelayGate.Pack.Issuer

namespace RelayGate

theorem Endpoint.isFinite_load (e : Endpoint) : e.load.isFinite := by
  unfold load
  split
  · split
    · exact Binary64.isFinite_ofRatio (by decide)
    · split
      · exact Binary64.isFinite_ofRatio (Nat.le_refl 1)
      · next h => exact Binary64.isFinite_ofRatio (UInt32.le_of_lt (UInt32.not_le.1 h))
  · exact Binary64.isFinite_ofRatio (by decide)

namespace Pack.Issuer

theorem issue_of_choose {b : Pack.Issuer} {l : Lookup} {hint : String} {preferred : List String}
    {verdict : Option Verdict} {es : List Endpoint}
    (h : l.choose b.policy (l.chooseRegion hint preferred) verdict b.maxEndpoints = .ok es)
    (now : Clock) (client : String) :
    b.issue l now client hint preferred verdict = .ok (l.chooseRegion hint preferred,
      (b.draft now client (l.chooseRegion hint preferred) es).sign b.key) := by
  simp only [issue, h]
  rfl

theorem issue_ok {b : Pack.Issuer} {l : Lookup} {now : Clock} {client hint : String}
    {preferred : List String} {verdict : Option Verdict} {region : String} {p : Pack}
    (h : b.issue l now client hint preferred verdict = .ok (region, p)) :
    region = l.chooseRegion hint preferred ∧
      ∃ es, l.choose b.policy region verdict b.maxEndpoints = .ok es ∧
        p = (b.draft now client region es).sign b.key := by
  simp only [issue] at h
  cases hc : l.choose b.policy (l.chooseRegion hint preferred) verdict b.maxEndpoints with
  | error e =>
      rw [hc] at h
      exact nomatch h
  | ok es =>
      rw [hc] at h
      obtain ⟨rfl, rfl⟩ := Prod.mk.inj (Except.ok.inj h)
      exact ⟨rfl, es, hc, rfl⟩

theorem hasFiniteLoads_draft (b : Pack.Issuer) (now : Clock) (client region : String)
    (es : List Endpoint) : (b.draft now client region es).HasFiniteLoads := by
  intro card hcard
  obtain ⟨e, -, rfl⟩ := List.mem_map.1 hcard
  exact e.isFinite_load

theorem hasFiniteLoads_issue {b : Pack.Issuer} {l : Lookup} {now : Clock} {client hint : String}
    {preferred : List String} {verdict : Option Verdict} {region : String} {p : Pack}
    (h : b.issue l now client hint preferred verdict = .ok (region, p)) : p.HasFiniteLoads := by
  obtain ⟨-, es, -, rfl⟩ := issue_ok h
  exact b.hasFiniteLoads_draft now client region es

end Pack.Issuer

end RelayGate
