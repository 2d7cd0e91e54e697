import RelayGate.Proofs.Relay.Cascade
import RelayGate.Proofs.Relay.Directory
import RelayGate.Proofs.Relay.Ranking

namespace RelayGate

namespace Endpoint

def WorksIn (e : Endpoint) (region : String) : Prop :=
  e.region = region ∧ e.status = .active ∧ e.isDecoy = false

instance (e : Endpoint) (region : String) : Decidable (e.WorksIn region) :=
  inferInstanceAs (Decidable (_ ∧ _ ∧ _))

def IsOpenIn (e : Endpoint) (region : String) : Prop :=
  e.WorksIn region ∧ e.load.lt overload = true

end Endpoint

namespace Directory

def HasOpen (d : Directory) (region : String) : Prop := ∃ e ∈ d.rows, e.IsOpenIn region

/-- A relay of the region can take another client, and fewer than a hundred active real relays of the
region stand before it in the table. -/
def ShowsOpen (d : Directory) (region : String) : Prop :=
  ∃ before e behind, d.rows = before ++ e :: behind ∧ e.IsOpenIn region ∧
    before.countP (fun r => r.WorksIn region) < 100

theorem mem_take_filter_iff {α : Type} {p : α → Bool} {xs : List α} {n : Nat} {a : α} :
    a ∈ (xs.filter p).take n ↔
      ∃ before behind, xs = before ++ a :: behind ∧ p a = true ∧ before.countP p < n := by
  induction xs generalizing n with
  | nil => simp
  | cons x xs ih =>
      by_cases hx : p x = true
      · rw [List.filter_cons_of_pos hx]
        cases n with
        | zero => simp
        | succ n =>
            rw [List.take_succ_cons, List.mem_cons, ih]
            constructor
            · rintro (rfl | ⟨before, behind, rfl, ha, hcount⟩)
              · exact ⟨[], xs, rfl, hx, Nat.succ_pos n⟩
              · refine ⟨x :: before, behind, rfl, ha, ?_⟩
                rw [List.countP_cons_of_pos hx]
                exact Nat.succ_lt_succ hcount
            · rintro ⟨before, behind, hxs, ha, hcount⟩
              cases before with
              | nil => exact .inl (List.cons.inj hxs).1.symm
              | cons y before =>
                  obtain ⟨rfl, rfl⟩ := List.cons.inj hxs
                  rw [List.countP_cons_of_pos hx] at hcount
                  exact .inr ⟨before, behind, rfl, ha, Nat.lt_of_succ_lt_succ hcount⟩
      · rw [List.filter_cons_of_neg hx, ih]
        constructor
        · rintro ⟨before, behind, rfl, ha, hcount⟩
          refine ⟨x :: before, behind, rfl, ha, ?_⟩
          rwa [List.countP_cons_of_neg hx]
        · rintro ⟨before, behind, hxs, ha, hcount⟩
          cases before with
          | nil =>
              obtain ⟨rfl, -⟩ := List.cons.inj hxs
              exact absurd ha hx
          | cons y before =>
              obtain ⟨rfl, rfl⟩ := List.cons.inj hxs
              rw [List.countP_cons_of_neg hx] at hcount
              exact ⟨before, behind, rfl, ha, hcount⟩

variable {d : Directory} {region : String}

theorem available_lookup_iff : d.lookup.Available region ↔ d.ShowsOpen region := by
  have hreal : d.lookup.realIn region =
      .ok ((d.rows.filter fun e => e.WorksIn region).take 100) :=
    congrArg Except.ok (d.realIn_eq_activeIn region)
  rw [Lookup.Available, hreal]
  constructor
  · rintro ⟨es, hes, e, he, -, hload⟩
    obtain rfl := Except.ok.inj hes
    obtain ⟨before, behind, hrows, hworks, hcount⟩ := mem_take_filter_iff.1 he
    exact ⟨before, e, behind, hrows, ⟨of_decide_eq_true hworks, hload⟩, hcount⟩
  · rintro ⟨before, e, behind, hrows, ⟨hworks, hload⟩, hcount⟩
    refine ⟨_, rfl, e, mem_take_filter_iff.2 ?_, hworks.2.1, hload⟩
    exact ⟨before, behind, hrows, decide_eq_true hworks, hcount⟩

theorem showsOpen_of_hasOpen (hfew : d.rows.countP (fun r => r.WorksIn region) ≤ 100)
    (h : d.HasOpen region) : d.ShowsOpen region := by
  obtain ⟨e, he, hopen⟩ := h
  obtain ⟨before, behind, hrows⟩ := List.append_of_mem he
  refine ⟨before, e, behind, hrows, hopen, ?_⟩
  have he : decide (e.WorksIn region) = true := decide_eq_true hopen.1
  rw [hrows, List.countP_append, List.countP_cons, if_pos he] at hfew
  omega

theorem chooseRegion_eq_self_iff (hregion : region ≠ "") (preferred : List String) :
    d.lookup.chooseRegion region preferred = region ↔ d.ShowsOpen region ∨
      region = "us-east-1" ∧ ∀ r ∈ preferred ++ Region.adjacent region, ¬ d.ShowsOpen r := by
  have hlist : Lookup.regionCandidates region preferred =
      region :: (preferred ++ Region.adjacent region) := by
    simp [Lookup.regionCandidates, hregion]
  rw [Lookup.chooseRegion_eq_iff, hlist]
  simp only [available_lookup_iff]
  constructor
  · rintro (⟨-, -, -, havailable, -⟩ | ⟨hfallback, hnone⟩)
    · exact .inl (available_lookup_iff.1 havailable)
    · exact .inr ⟨hfallback, fun r hr => hnone r (List.mem_cons_of_mem region hr)⟩
  · rintro (hopen | ⟨hfallback, hnone⟩)
    · refine .inl ⟨[], _, rfl, available_lookup_iff.2 hopen, ?_⟩
      intro r hr
      exact absurd hr List.not_mem_nil
    · by_cases hopen : d.ShowsOpen region
      · refine .inl ⟨[], _, rfl, available_lookup_iff.2 hopen, ?_⟩
        intro r hr
        exact absurd hr List.not_mem_nil
      · refine .inr ⟨hfallback, ?_⟩
        intro r hr
        rcases List.mem_cons.1 hr with rfl | hr
        · exact hopen
        · exact hnone r hr

/-- Whatever calls have filled the directory, the region that a client names is the one that comes out
if and only if a relay that can take the client stands among the first hundred active real relays of
the region, or the region is the fallback and no other is available either. So a region of at most a
hundred active real relays is never passed over while one of them can take the client. -/
theorem chooseRegion_named (calls : List Call) {region : String} (hregion : region ≠ "")
    (preferred : List String) :
    let d := empty.run calls
    (d.lookup.chooseRegion region preferred = region ↔ d.ShowsOpen region ∨
      region = "us-east-1" ∧ ∀ r ∈ preferred ++ Region.adjacent region, ¬ d.ShowsOpen r) ∧
    (d.rows.countP (fun r => r.WorksIn region) ≤ 100 → d.HasOpen region →
      d.lookup.chooseRegion region preferred = region) := by
  intro d
  refine ⟨chooseRegion_eq_self_iff hregion preferred, ?_⟩
  intro hfew hopen
  exact (chooseRegion_eq_self_iff hregion preferred).2 (.inl (showsOpen_of_hasOpen hfew hopen))

theorem rows_run_upserts {es : List Endpoint} (h : (es.map (·.id)).Nodup) :
    (empty.run (es.map .upsert)).rows = es := by
  induction es using List.reverseRecOn with
  | nil => rfl
  | append_singleton es e ih =>
      rw [List.map_append, List.map_singleton] at h
      obtain ⟨hes, -, hfresh⟩ := List.nodup_append.1 h
      have hnot : e.id ∉ (empty.run (es.map .upsert)).ids := by
        rw [ids, ih hes]
        exact fun hmem => hfresh e.id hmem e.id (List.mem_singleton_self _) rfl
      rw [List.map_append, List.map_singleton, run_concat]
      rcases perform_of_not_mem (c := .upsert e) hnot with ⟨u, hu, hp⟩ | ⟨hnone, -⟩
      · obtain rfl := Call.upsert.inj hu
        rw [hp, ih hes]
      · cases hnone

def crowdRelay (users : UInt32) (n : Nat) : Endpoint :=
  { sample (toString n) "eu-west-1" false with users := users }

def crowd (n : Nat) : List Endpoint := (List.range n).map (crowdRelay 200) ++ [crowdRelay 0 n]

theorem rows_crowd (n : Nat) : (empty.run ((crowd n).map .upsert)).rows = crowd n := by
  apply rows_run_upserts
  have hids : (crowd n).map (·.id) = (List.range (n + 1)).map toString := by
    rw [List.range_succ, crowd, List.map_append, List.map_append, List.map_map]
    rfl
  have hinjective : Function.Injective (toString : Nat → String) := by
    intro i j hij
    have hdigits : Nat.toDigits 10 i = Nat.toDigits 10 j := String.ofList_injective hij
    rw [← Numeral.value_digitsOf i, Numeral.digitsOf, hdigits]
    exact Numeral.value_digitsOf j
  rw [hids]
  exact List.nodup_range.map hinjective

theorem hasOpen_crowd (n : Nat) : (empty.run ((crowd n).map .upsert)).HasOpen "eu-west-1" := by
  have hload : (crowdRelay 0 n).load.lt overload = true := by
    change (Binary64.ofRatio 0 200).lt overload = true
    decide +kernel
  refine ⟨crowdRelay 0 n, ?_, ⟨rfl, rfl, rfl⟩, hload⟩
  rw [rows_crowd]
  exact List.mem_append_right _ (List.mem_singleton_self _)

theorem countP_crowd (n : Nat) :
    ((List.range n).map (crowdRelay 200)).countP (fun r => r.WorksIn "eu-west-1") = n := by
  rw [List.countP_eq_length.2, List.length_map, List.length_range]
  intro r hr
  obtain ⟨i, -, rfl⟩ := List.mem_map.1 hr
  exact decide_eq_true ⟨rfl, rfl, rfl⟩

theorem showsOpen_crowd_iff (n : Nat) :
    (empty.run ((crowd n).map .upsert)).ShowsOpen "eu-west-1" ↔ n < 100 := by
  have hfull : ∀ e ∈ (List.range n).map (crowdRelay 200), ¬ e.IsOpenIn "eu-west-1" := by
    intro e he hopen
    obtain ⟨i, -, rfl⟩ := List.mem_map.1 he
    have hload : Binary64.one.lt overload = true := hopen.2
    revert hload
    decide +kernel
  constructor
  · rintro ⟨before, e, behind, hrows, hopen, hcount⟩
    rw [rows_crowd, crowd] at hrows
    -- The one that counts can only be the last, and then all others stand before it.
    rcases List.eq_nil_or_concat behind with rfl | ⟨rest, x, rfl⟩
    · obtain ⟨rfl, -⟩ := List.append_inj' hrows rfl
      rwa [countP_crowd] at hcount
    · rw [List.concat_eq_append, ← List.cons_append, ← List.append_assoc] at hrows
      obtain ⟨hothers, -⟩ := List.append_inj' hrows rfl
      refine absurd hopen (hfull e ?_)
      rw [hothers]
      exact List.mem_append_right _ List.mem_cons_self
  · intro hn
    obtain ⟨e, he, hopen⟩ := hasOpen_crowd n
    rw [rows_crowd, crowd] at he
    rcases List.mem_append.1 he with hothers | hlast
    · exact absurd hopen (hfull e hothers)
    · obtain rfl := List.mem_singleton.1 hlast
      refine ⟨_, _, [], rows_crowd n, hopen, ?_⟩
      rwa [countP_crowd]

theorem chooseRegion_named_crowd :
    let d := empty.run ((crowd 99).map .upsert)
    "eu-west-1" ≠ "" ∧ d.rows.countP (fun r => r.WorksIn "eu-west-1") = 100 ∧
      d.HasOpen "eu-west-1" ∧ d.lookup.chooseRegion "eu-west-1" ["us-east-1"] = "eu-west-1" := by
  have hcount : (empty.run ((crowd 99).map .upsert)).rows.countP
      (fun r => r.WorksIn "eu-west-1") = 100 := by
    rw [rows_crowd, crowd, List.countP_append, countP_crowd]
    rfl
  have hchoice := (chooseRegion_named ((crowd 99).map .upsert) (by decide : "eu-west-1" ≠ "")
    ["us-east-1"]).2 (Nat.le_of_eq hcount) (hasOpen_crowd 99)
  exact ⟨by decide, hcount, hasOpen_crowd 99, hchoice⟩

/-- Behind a hundred it is overlooked, so that having a relay that can take the client is not enough
for a region to be the one that comes out. -/
theorem chooseRegion_overlooks :
    ¬ ∀ (calls : List Call) (region : String) (preferred : List String), region ≠ "" →
      (empty.run calls).HasOpen region →
        (empty.run calls).lookup.chooseRegion region preferred = region := by
  intro h
  have hchoice := h ((crowd 100).map .upsert) "eu-west-1" [] (by decide) (hasOpen_crowd 100)
  rcases (chooseRegion_eq_self_iff (by decide) []).1 hchoice with hopen | ⟨hfallback, -⟩
  · exact absurd ((showsOpen_crowd_iff 100).1 hopen) (Nat.lt_irrefl 100)
  · exact absurd hfallback (by decide)

end Directory

end RelayGate
