import RelayGate.Proofs.Pack.Issuer
import RelayGate.Proofs.Relay.Selection
import RelayGate.Service.Fleet

namespace RelayGate.World

theorem lookup_of_no_faults {w : World} (h : w.faults = .none) : w.lookup = w.directory.lookup := by
  rw [lookup, h]
  rfl

theorem isDecoy_of_lookup (w : World) {region : String} {es : List Endpoint}
    (h : w.lookup.decoysIn region = .ok es) : ∀ e ∈ es, e.isDecoy = true := by
  change failing (w.faults.decoysIn region) (.ok (w.directory.decoysIn region)) = .ok es at h
  cases hf : w.faults.decoysIn region with
  | some fault =>
      rw [hf] at h
      exact nomatch h
  | none =>
      rw [hf] at h
      obtain rfl := Except.ok.inj h
      intro e he
      exact Directory.isDecoy_of_mem_decoysIn he

theorem issue_of_ok {w : World} {b : Pack.Issuer} {client hint : String} {preferred : List String}
    {verdict : Option Verdict} {region : String} {p : Pack}
    (h : b.issue w.lookup w.clock client hint preferred verdict = .ok (region, p)) :
    w.issue b client hint preferred verdict =
      (.ok p, w.emit (.packGenerated region (needsDecoys verdict))) := by
  rw [issue, h]

theorem issue_eq_ok {w : World} {b : Pack.Issuer} {client hint : String} {preferred : List String}
    {verdict : Option Verdict} {p : Pack} :
    (w.issue b client hint preferred verdict).1 = .ok p ↔
      ∃ region, b.issue w.lookup w.clock client hint preferred verdict = .ok (region, p) := by
  constructor
  · intro h
    rw [issue] at h
    split at h
    · next region q hq =>
        obtain rfl := Except.ok.inj h
        exact ⟨region, hq⟩
    · exact nomatch h
  · rintro ⟨region, h⟩
    rw [issue_of_ok h]

variable {b : Pack.Issuer} {verdict : Option Verdict}

theorem issue_untrusted {w : World} (hw : w.faults = .none) (hb : b.policy = .replace)
    (hv : needsDecoys verdict = true) (client : String) {hint region : String}
    {preferred : List String} (hr : w.lookup.chooseRegion hint preferred = region) :
    w.issue b client hint preferred verdict =
      (.ok ((b.draft w.clock client region (leastLoaded (w.directory.decoysIn region)
        (if b.maxEndpoints = 0 then defaultLimit else b.maxEndpoints))).sign b.key),
        w.emit (.packGenerated region true)) := by
  subst hr
  have hc : w.lookup.choose b.policy (w.lookup.chooseRegion hint preferred) verdict b.maxEndpoints =
      .ok (leastLoaded (w.directory.decoysIn (w.lookup.chooseRegion hint preferred))
        (if b.maxEndpoints = 0 then defaultLimit else b.maxEndpoints)) := by
    rw [hb, Lookup.choose_replace hv, lookup_of_no_faults hw]
    rfl
  rw [issue_of_ok (Pack.Issuer.issue_of_choose hc w.clock client), hv]

/-- Of the relays, the pack of a client that needs decoys depends on the rows of decoys and on the
region alone, down to the signature; and so does what is reported of it. -/
theorem issue_untrusted_blind {w₁ w₂ : World} (hclock : w₁.clock = w₂.clock)
    (h₁ : w₁.faults = .none) (h₂ : w₂.faults = .none)
    (hdecoys : w₁.directory.decoys = w₂.directory.decoys) (hb : b.policy = .replace)
    (hv : needsDecoys verdict = true) (client : String) {hint region : String}
    {preferred : List String} (hr₁ : w₁.lookup.chooseRegion hint preferred = region)
    (hr₂ : w₂.lookup.chooseRegion hint preferred = region) :
    ∃ p, w₁.issue b client hint preferred verdict = (.ok p, w₁.emit (.packGenerated region true)) ∧
      w₂.issue b client hint preferred verdict = (.ok p, w₂.emit (.packGenerated region true)) := by
  refine ⟨_, issue_untrusted h₁ hb hv client hr₁, ?_⟩
  rw [hclock, Directory.decoysIn_congr hdecoys]
  exact issue_untrusted h₂ hb hv client hr₂

def otherFleet : World :=
  [Fleet.relay "relay-new" "us-east-1" 1 false, Fleet.relay "decoy-1" "us-east-1" 0 true,
    Fleet.relay "relay-far" "ap-east-1" 99 false].foldl .upsert (.atClock Fleet.clock)

theorem issue_untrusted_blind_fleet :
    Fleet.world.directory.rows ≠ otherFleet.directory.rows ∧
      ∃ p, Fleet.world.issue (.new ⟨[], true⟩ .replace) "device" "" [] none =
          (.ok p, Fleet.world.emit (.packGenerated "us-east-1" true)) ∧
        otherFleet.issue (.new ⟨[], true⟩ .replace) "device" "" [] none =
          (.ok p, otherFleet.emit (.packGenerated "us-east-1" true)) := by
  have hrows : Fleet.world.directory.rows ≠ otherFleet.directory.rows := by decide +kernel
  have hclock : Fleet.world.clock = otherFleet.clock := by rfl
  have h₁ : Fleet.world.faults = .none := by rfl
  have h₂ : otherFleet.faults = .none := by rfl
  have hdecoys : Fleet.world.directory.decoys = otherFleet.directory.decoys := by decide +kernel
  have hr₁ : Fleet.world.lookup.chooseRegion "" [] = "us-east-1" := by decide +kernel
  have hr₂ : otherFleet.lookup.chooseRegion "" [] = "us-east-1" := by decide +kernel
  exact ⟨hrows, issue_untrusted_blind hclock h₁ h₂ hdecoys rfl rfl "device" hr₁ hr₂⟩

end RelayGate.World
