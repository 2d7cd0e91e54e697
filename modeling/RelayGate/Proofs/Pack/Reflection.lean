import RelayGate.Proofs.Pack.Issuer
import RelayGate.Proofs.Pack.Signature
import RelayGate.Proofs.Relay.Directory
import RelayGate.Proofs.Relay.Ranking
import RelayGate.Service.Fleet

namespace RelayGate

namespace Directory

variable {d : Directory} {policy : DecoyPolicy} {region : String} {verdict : Option Verdict}

theorem mem_eligible {e : Endpoint} (h : e ∈ d.eligible policy region verdict) :
    e ∈ d.rows ∧ e.region = region ∧ e.status = .active ∧
      (needsDecoys verdict = false → e.isDecoy = false) ∧
      (needsDecoys verdict = true → policy = .replace → e.isDecoy = true) := by
  cases hv : needsDecoys verdict with
  | false =>
      simp only [eligible, hv] at h
      simp [mem_activeIn h]
  | true =>
      cases policy with
      | replace =>
          simp only [eligible, hv] at h
          simp [mem_activeIn h]
      | merge =>
          simp only [eligible, hv, List.mem_append] at h
          rcases h with h | h <;> simp [mem_activeIn h]

theorem nodup_eligible (h : d.ids.Nodup) :
    ((d.eligible policy region verdict).map (·.id)).Nodup := by
  have hside (isDecoy : Bool) (n : Nat) :
      (((d.activeIn region isDecoy).take n).map (·.id)).Nodup := by
    have hsub := (List.take_sublist n (d.activeIn region isDecoy)).trans List.filter_sublist
    exact List.Nodup.sublist (hsub.map _) h
  unfold eligible
  split
  · exact hside false 100
  · exact hside true 10
  · rw [List.map_append]
    refine List.nodup_append.2 ⟨hside true 10, hside false 100, ?_⟩
    -- Decoys and real relays are different rows of the table, and no two rows have one id.
    intro x hx y hy hxy
    obtain ⟨decoy, hdecoy, rfl⟩ := List.mem_map.1 hx
    obtain ⟨real, hreal, rfl⟩ := List.mem_map.1 hy
    rw [← realIn_eq_activeIn] at hreal
    rw [← decoysIn_eq_activeIn] at hdecoy
    exact ne_of_mem_realIn h hreal hdecoy hxy.symm

end Directory

theorem nodup_leastLoaded {es : List Endpoint} (h : (es.map (·.id)).Nodup) (limit : Nat) :
    ((leastLoaded es limit).map (·.id)).Nodup := by
  have hperm := (List.mergeSort_perm es fun a b => a.load.rank ≤ b.load.rank).map (·.id)
  exact List.Nodup.sublist ((List.take_sublist _ _).map _) (hperm.nodup_iff.2 h)

theorem Endpoint.isNaN_load (e : Endpoint) : e.load.isNaN = false := by
  have hfinite := of_decide_eq_true e.isFinite_load
  exact decide_eq_false (Nat.lt_asymm hfinite)

theorem pairwise_leastLoaded (es : List Endpoint) (limit : Nat) :
    (leastLoaded es limit).Pairwise fun x y => x.load.le y.load = true := by
  have hranking := isRanking_mergeSort es
  rw [hranking.leastLoaded_eq]
  apply List.pairwise_map.2
  apply (hranking.isChoice limit).ordered.imp
  intro x y hahead
  apply Binary64.le_of_rank_le x.1.isNaN_load y.1.isNaN_load
  rcases hahead with hrank | ⟨hload, -⟩
  · exact Int.le_of_lt hrank
  · exact Int.le_of_eq (congrArg Binary64.rank hload)

namespace Pack

/-- What a pack for a region says holds of the directory. -/
structure Reflects (p : Pack) (d : Directory) (b : Pack.Issuer) (now : Clock) (client region : String)
    (verdict : Option Verdict) : Prop where
  metadata : p.metadata.entries = [("client_id", client), ("region", region)] ++
    b.gate.toList.map fun g =>
      ("rollout", if g.includes client "1.0" region then "current" else "holdback")
  rows : ∀ card ∈ p.endpoints, ∃ e ∈ d.rows, e.status = .active ∧ e.region = region ∧
    card = ⟨e.id, e.address, e.port, e.transports, region, e.load, e.isDecoy, e.publicKey⟩
  distinct : (p.endpoints.map (·.id)).Nodup
  room : p.endpoints.length ≤ if b.maxEndpoints = 0 then 5 else b.maxEndpoints
  ordered : p.endpoints.Pairwise fun x y => x.load.le y.load = true
  trusted : needsDecoys verdict = false → ∀ card ∈ p.endpoints, card.isDecoy = false
  untrusted : needsDecoys verdict = true → b.policy = .replace →
    ∀ card ∈ p.endpoints, card.isDecoy = true
  timestamp : p.timestamp = now.seconds

namespace Issuer

variable {d : Directory}

theorem entries_metadata (b : Pack.Issuer) (client region : String) :
    (b.metadata client region).entries = [("client_id", client), ("region", region)] ++
      b.gate.toList.map fun g =>
        ("rollout", if g.includes client "1.0" region then "current" else "holdback") := by
  rw [metadata]
  cases b.gate with
  | none =>
      apply KeyMap.entries_ofList
      exact (by decide : ["client_id", "region"].Pairwise (· < ·))
  | some g =>
      have hconcat := KeyMap.ofList_concat [("client_id", client), ("region", region)]
        ("rollout", cohort g client region)
      dsimp only at hconcat ⊢
      rw [← hconcat]
      apply KeyMap.entries_ofList
      exact (by decide : ["client_id", "region", "rollout"].Pairwise (· < ·))

theorem reflects_draft (h : d.ids.Nodup) (b : Pack.Issuer) (now : Clock) (client region : String)
    (verdict : Option Verdict) :
    (b.draft now client region (leastLoaded (d.eligible b.policy region verdict)
      (if b.maxEndpoints = 0 then 5 else b.maxEndpoints))).Reflects d b now client region verdict := by
  generalize hroom : (if b.maxEndpoints = 0 then 5 else b.maxEndpoints) = room
  have hcard : ∀ card ∈ (leastLoaded (d.eligible b.policy region verdict) room).map Endpoint.card,
      ∃ e ∈ d.eligible b.policy region verdict, e.card = card := by
    intro card hmem
    obtain ⟨e, he, hcard⟩ := List.mem_map.1 hmem
    exact ⟨e, mem_of_mem_leastLoaded he, hcard⟩
  refine {
    metadata := b.entries_metadata client region
    rows := ?_
    distinct := ?_
    room := ?_
    ordered := ?_
    trusted := ?_
    untrusted := ?_
    timestamp := rfl }
  · intro card hmem
    obtain ⟨e, he, rfl⟩ := hcard card hmem
    obtain ⟨hrow, hregion, hactive, -⟩ := Directory.mem_eligible he
    exact ⟨e, hrow, hactive, hregion, by rw [← hregion]; rfl⟩
  · rw [draft, List.map_map]
    exact nodup_leastLoaded (Directory.nodup_eligible h) room
  · simpa only [draft, hroom, leastLoaded, List.length_map, List.length_take] using
      Nat.min_le_left room _
  · exact List.pairwise_map.2 (pairwise_leastLoaded _ room)
  · intro hv card hmem
    obtain ⟨e, he, rfl⟩ := hcard card hmem
    exact (Directory.mem_eligible he).2.2.2.1 hv
  · intro hv hpolicy card hmem
    obtain ⟨e, he, rfl⟩ := hcard card hmem
    exact (Directory.mem_eligible he).2.2.2.2 hv hpolicy

/-- A pack is issued from every directory that calls have filled. It is for the region that comes out
of the hint and the preferences, and reflects the directory there; and where the signatures of the
issuer are honoured, it is authentic, for the issuer's key. The strict checks are those that run. -/
theorem issue_reflects {V : Verification} {b : Pack.Issuer} (hV : V.Honours b.key.seed)
    (calls : List Directory.Call) (now : Clock) (client hint : String) (preferred : List String)
    (verdict : Option Verdict) :
    let d := Directory.empty.run calls
    ∃ region p, region = d.lookup.chooseRegion hint preferred ∧
      b.issue d.lookup now client hint preferred verdict = .ok (region, p) ∧
      p.Reflects d b now client region verdict ∧
      p.isAuthenticUnder V = true ∧ p.isAuthenticForUnder V b.key.verifyingKey = true ∧
      p.isAuthenticUnder .strict = p.isAuthentic ∧
      p.isAuthenticForUnder .strict b.key.verifyingKey = p.isAuthenticFor b.key.verifyingKey := by
  intro d
  have hdistinct : d.ids.Nodup := (Directory.recounts calls).distinct
  have hchoose := d.choose_lookup b.policy (d.lookup.chooseRegion hint preferred) verdict
    b.maxEndpoints
  have hdraft := reflects_draft hdistinct b now client (d.lookup.chooseRegion hint preferred) verdict
  refine ⟨_, _, rfl, issue_of_choose hchoose now client, ?_, isAuthenticUnder_sign hV _,
    isAuthenticForUnder_sign hV _, isAuthenticUnder_strict _, isAuthenticForUnder_strict _ _⟩
  exact { hdraft with }

def hesitant : Rollout.Gate := Rollout.Gate.full.override none (some "eu-central-1") 0

theorem issue_reflects_fleet :
    let b : Pack.Issuer := ⟨⟨[7], true⟩, .replace, 0, some hesitant⟩
    let d := Directory.empty.run (Fleet.relays.map .upsert)
    (Verification.knowing [7]).Honours b.key.seed ∧
      hesitant.includes "device" "1.0" "eu-central-1" = false ∧
      ∃ p, b.issue d.lookup Fleet.clock "device" "eu-central-1" [] none = .ok ("eu-west-1", p) ∧
        p.metadata.entries =
          [("client_id", "device"), ("region", "eu-west-1"), ("rollout", "current")] ∧
        p.timestamp = 1760000000 ∧ p.isAuthenticUnder (.knowing [7]) = true := by
  intro b d
  have hV : (Verification.knowing [7]).Honours b.key.seed := Verification.honours_knowing [7]
  obtain ⟨region, p, hregion, hissue, hreflects, hauthentic, -⟩ :=
    issue_reflects hV (Fleet.relays.map .upsert) Fleet.clock "device" "eu-central-1" [] none
  have hresolved : d.lookup.chooseRegion "eu-central-1" [] = "eu-west-1" := by decide +kernel
  obtain rfl := hregion.trans hresolved
  have hincluded : hesitant.includes "device" "1.0" "eu-west-1" = true := by decide +kernel
  refine ⟨hV, by decide +kernel, p, hissue, ?_, hreflects.timestamp.trans (by decide), hauthentic⟩
  rw [hreflects.metadata]
  simp [b, hincluded]

end Issuer

end Pack

end RelayGate
