import Mathlib.Data.List.Nodup
import RelayGate.Proofs.Binary64
import RelayGate.Proofs.Relay.Selection

namespace RelayGate

/-- Of two candidates with their places, the less loaded one is ahead, and of equally loaded ones the
one in the earlier place. -/
def Ahead (x y : Endpoint × Nat) : Prop :=
  x.1.load.rank < y.1.load.rank ∨ x.1.load = y.1.load ∧ x.2 < y.2

/-- All of the candidates with their places, each ahead of those behind it. -/
structure IsRanking (cs : List Endpoint) (xs : List (Endpoint × Nat)) : Prop where
  perm : xs.Perm cs.zipIdx
  ordered : xs.Pairwise Ahead

/-- As many of the candidates as there is room for, each of them ahead of all that are left out. -/
structure IsChoice (cs : List Endpoint) (room : Nat) (chosen left : List (Endpoint × Nat)) :
    Prop where
  perm : (chosen ++ left).Perm cs.zipIdx
  count : chosen.length = min room cs.length
  ordered : chosen.Pairwise Ahead
  ahead : ∀ x ∈ chosen, ∀ y ∈ left, Ahead x y

theorem Ahead.asymm {x y : Endpoint × Nat} (h : Ahead x y) : ¬ Ahead y x := by
  rcases h with hrank | ⟨hload, hplace⟩
  · rintro (hback | ⟨hload, -⟩)
    · exact absurd hrank (Int.lt_asymm hback)
    · rw [hload] at hrank
      exact Int.lt_irrefl _ hrank
  · rintro (hback | ⟨-, hback⟩)
    · rw [hload] at hback
      exact Int.lt_irrefl _ hback
    · exact Nat.lt_asymm hplace hback

def inOrder : Endpoint × Nat → Endpoint × Nat → Bool :=
  List.zipIdxLE fun a b => a.load.rank ≤ b.load.rank

theorem ahead_of_inOrder {x y : Endpoint × Nat} (h : inOrder x y = true) (hne : x.2 ≠ y.2) :
    Ahead x y := by
  by_cases hyx : y.1.load.rank ≤ x.1.load.rank
  · by_cases hxy : x.1.load.rank ≤ y.1.load.rank
    · have hplace : x.2 ≤ y.2 := by simpa [inOrder, List.zipIdxLE, hxy, hyx] using h
      exact .inr ⟨Binary64.rank_injective (Int.le_antisymm hxy hyx), Nat.lt_of_le_of_ne hplace hne⟩
    · simp [inOrder, List.zipIdxLE, hxy] at h
  · exact .inl (Int.not_le.1 hyx)

theorem nodup_places (cs : List Endpoint) : (cs.zipIdx.map Prod.snd).Nodup := by
  rw [List.zipIdx_map_snd]
  exact List.nodup_range'

theorem pairwise_ahead_mergeSort {xs : List (Endpoint × Nat)} (h : (xs.map Prod.snd).Nodup) :
    (xs.mergeSort inOrder).Pairwise Ahead := by
  have htrans : ∀ a b c : Endpoint, decide (a.load.rank ≤ b.load.rank) = true →
      decide (b.load.rank ≤ c.load.rank) = true → decide (a.load.rank ≤ c.load.rank) = true := by
    simp only [decide_eq_true_eq]
    intro a b c hab hbc
    exact Int.le_trans hab hbc
  have htotal : ∀ a b : Endpoint,
      (decide (a.load.rank ≤ b.load.rank) || decide (b.load.rank ≤ a.load.rank)) = true := by
    simp only [Bool.or_eq_true, decide_eq_true_eq]
    intro a b
    exact Int.le_total _ _
  have hsorted := List.pairwise_mergeSort (List.zipIdxLE_trans htrans) (List.zipIdxLE_total htotal) xs
  have hperm := (List.mergeSort_perm xs inOrder).map Prod.snd
  have hplaces : (xs.mergeSort inOrder).Pairwise fun x y => x.2 ≠ y.2 :=
    List.pairwise_map.1 (hperm.nodup_iff.2 h)
  exact (hsorted.and hplaces).imp fun hxy => ahead_of_inOrder hxy.1 hxy.2

theorem IsRanking.unique {cs : List Endpoint} {xs ys : List (Endpoint × Nat)}
    (hx : IsRanking cs xs) (hy : IsRanking cs ys) : xs = ys := by
  have hanti : ∀ a b, a ∈ xs → b ∈ ys → Ahead a b → Ahead b a → a = b := by
    intro a b _ _ hab hba
    exact absurd hba hab.asymm
  exact List.Perm.eq_of_pairwise hanti hx.ordered hy.ordered (hx.perm.trans hy.perm.symm)

theorem isRanking_mergeSort (cs : List Endpoint) : IsRanking cs (cs.zipIdx.mergeSort inOrder) where
  perm := List.mergeSort_perm _ _
  ordered := pairwise_ahead_mergeSort (nodup_places cs)

variable {cs : List Endpoint} {xs chosen left : List (Endpoint × Nat)} {room : Nat}

theorem IsRanking.leastLoaded_eq (h : IsRanking cs xs) (limit : Nat) :
    leastLoaded cs limit = (xs.take limit).map Prod.fst := by
  rw [h.unique (isRanking_mergeSort cs), List.map_take, inOrder, List.mergeSort_zipIdx]
  rfl

theorem IsRanking.isChoice (h : IsRanking cs xs) (room : Nat) :
    IsChoice cs room (xs.take room) (xs.drop room) where
  perm := by
    rw [List.take_append_drop]
    exact h.perm
  count := by rw [List.length_take, h.perm.length_eq, List.length_zipIdx]
  ordered := h.ordered.sublist (List.take_sublist _ _)
  ahead := by
    have hsplit := h.ordered
    rw [← List.take_append_drop room xs] at hsplit
    exact (List.pairwise_append.1 hsplit).2.2

theorem IsChoice.exists_ranking (h : IsChoice cs room chosen left) :
    ∃ xs, IsRanking cs xs ∧ chosen = xs.take room := by
  have hleft : (left.map Prod.snd).Nodup := by
    have hplaces := (h.perm.map Prod.snd).nodup_iff.2 (nodup_places cs)
    rw [List.map_append] at hplaces
    exact (List.nodup_append.1 hplaces).2.1
  have hsort := List.mergeSort_perm left inOrder
  have hranking : IsRanking cs (chosen ++ left.mergeSort inOrder) := by
    refine ⟨(hsort.append_left chosen).trans h.perm, ?_⟩
    refine List.pairwise_append.2 ⟨h.ordered, pairwise_ahead_mergeSort hleft, ?_⟩
    intro x hx y hy
    exact h.ahead x hx y (hsort.mem_iff.1 hy)
  refine ⟨_, hranking, ?_⟩
  have htotal := hranking.perm.length_eq
  rw [List.length_append, List.length_zipIdx] at htotal
  have hcount := h.count
  by_cases hroom : room ≤ cs.length
  · rw [List.take_append_of_le_length (by omega), List.take_of_length_le (by omega)]
  · have hnone : left.mergeSort inOrder = [] := List.length_eq_zero_iff.1 (by omega)
    rw [hnone, List.append_nil, List.take_of_length_le (by omega)]

theorem IsChoice.keeps_order (h : IsChoice cs room chosen left) {R : Endpoint → Endpoint → Prop}
    (hR : cs.Pairwise R) :
    (chosen.map Prod.fst).Pairwise fun x y => x.load = y.load → R x y := by
  have hplace : ∀ x ∈ chosen, cs[x.2]? = some x.1 := by
    intro x hx
    exact List.mem_zipIdx_iff_getElem?.1 (h.perm.mem_iff.1 (List.mem_append_left left hx))
  apply List.pairwise_map.2
  apply h.ordered.imp_of_mem
  intro x y hx hy hahead hload
  have hlt : x.2 < y.2 := by
    rcases hahead with hrank | ⟨-, hlt⟩
    · rw [hload] at hrank
      exact absurd hrank (Int.lt_irrefl _)
    · exact hlt
  obtain ⟨hxlen, hxget⟩ := List.getElem?_eq_some_iff.1 (hplace x hx)
  obtain ⟨hylen, hyget⟩ := List.getElem?_eq_some_iff.1 (hplace y hy)
  rw [← hxget, ← hyget]
  exact List.pairwise_iff_getElem.1 hR x.2 y.2 hxlen hylen hlt

namespace Directory

def activeIn (d : Directory) (region : String) (isDecoy : Bool) : List Endpoint :=
  d.rows.filter fun e => e.region = region ∧ e.status = .active ∧ e.isDecoy = isDecoy

/-- Those among whom a selection is made, decoys first. -/
def eligible (d : Directory) (policy : DecoyPolicy) (region : String) (verdict : Option Verdict) :
    List Endpoint :=
  match needsDecoys verdict, policy with
  | false, _ => (d.activeIn region false).take 100
  | true, .replace => (d.activeIn region true).take 10
  | true, .merge => (d.activeIn region true).take 10 ++ (d.activeIn region false).take 100

theorem realIn_eq_activeIn (d : Directory) (region : String) :
    d.realIn region = (d.activeIn region false).take 100 := by
  rw [realIn, activeIn]
  congr 2
  funext e
  simp [Endpoint.isActive, beq_eq_decide, Bool.and_assoc]

theorem decoysIn_eq_activeIn (d : Directory) (region : String) :
    d.decoysIn region = (d.activeIn region true).take 10 := by
  rw [decoysIn, activeIn]
  congr 2
  funext e
  simp [Endpoint.isActive, beq_eq_decide, Bool.and_assoc]

theorem candidates_lookup (d : Directory) (policy : DecoyPolicy) (region : String)
    (verdict : Option Verdict) :
    d.lookup.candidates policy region verdict = .ok (d.eligible policy region verdict) := by
  cases hv : needsDecoys verdict with
  | false => simp [Lookup.candidates, eligible, hv, lookup, realIn_eq_activeIn]
  | true =>
      cases policy with
      | replace => simp [Lookup.candidates, eligible, hv, lookup, decoysIn_eq_activeIn]
      | merge =>
          simp only [Lookup.candidates, eligible, hv, lookup, decoysIn_eq_activeIn, realIn_eq_activeIn]
          rfl

theorem mem_activeIn {d : Directory} {region : String} {isDecoy : Bool} {n : Nat} {e : Endpoint}
    (h : e ∈ (d.activeIn region isDecoy).take n) :
    e ∈ d.rows ∧ e.region = region ∧ e.status = .active ∧ e.isDecoy = isDecoy := by
  simpa [activeIn] using List.mem_of_mem_take h

theorem pairwise_eligible (d : Directory) (policy : DecoyPolicy) (region : String)
    (verdict : Option Verdict) : (d.eligible policy region verdict).Pairwise fun x y =>
      y.isDecoy = true → x.isDecoy = true := by
  have hside (isDecoy : Bool) (n : Nat) : ((d.activeIn region isDecoy).take n).Pairwise fun x y =>
      y.isDecoy = true → x.isDecoy = true := by
    apply List.pairwise_of_forall_mem_list
    intro x hx y hy hdecoy
    rw [(mem_activeIn hx).2.2.2, ← (mem_activeIn hy).2.2.2, hdecoy]
  unfold eligible
  split
  · exact hside false 100
  · exact hside true 10
  · refine List.pairwise_append.2 ⟨hside true 10, hside false 100, ?_⟩
    intro x hx y _ _
    exact (mem_activeIn hx).2.2.2

theorem choose_lookup (d : Directory) (policy : DecoyPolicy) (region : String)
    (verdict : Option Verdict) (limit : Nat) :
    d.lookup.choose policy region verdict limit =
      .ok (leastLoaded (d.eligible policy region verdict) (if limit = 0 then 5 else limit)) := by
  rw [Lookup.choose, candidates_lookup]
  rfl

/-- The candidates can be ranked in one way only, and the endpoints in front of that ranking are those
selected. They are the only list of candidates that fills the room there is, in order and ahead of
all that are left out; and a decoy comes before a real relay of the same load. -/
theorem choose_exact (d : Directory) (policy : DecoyPolicy) (region : String)
    (verdict : Option Verdict) (limit : Nat) :
    let cs := d.eligible policy region verdict
    let room := if limit = 0 then 5 else limit
    ∃ ranked selected, IsRanking cs ranked ∧ (∀ other, IsRanking cs other → other = ranked) ∧
      d.lookup.choose policy region verdict limit = .ok selected ∧
      selected = (ranked.take room).map Prod.fst ∧
      (∀ other, (∃ chosen left, IsChoice cs room chosen left ∧ other = chosen.map Prod.fst) ↔
        other = selected) ∧
      selected.Pairwise fun x y => x.load = y.load → y.isDecoy = true → x.isDecoy = true := by
  intro cs room
  have hranking := isRanking_mergeSort cs
  have hchoice := hranking.isChoice room
  refine ⟨_, _, hranking, fun other hother => hother.unique hranking, ?_, rfl, ?_, ?_⟩
  · rw [choose_lookup, hranking.leastLoaded_eq]
  · intro other
    constructor
    · rintro ⟨chosen, left, hother, rfl⟩
      obtain ⟨xs, hxs, rfl⟩ := hother.exists_ranking
      rw [hxs.unique hranking]
    · rintro rfl
      exact ⟨_, _, hchoice, rfl⟩
  · exact hchoice.keeps_order (d.pairwise_eligible policy region verdict)

end Directory

end RelayGate
