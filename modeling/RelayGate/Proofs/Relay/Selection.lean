import RelayGate.Relay.Selection

namespace RelayGate

theorem mem_of_mem_leastLoaded {es : List Endpoint} {limit : Nat} {e : Endpoint}
    (h : e ∈ leastLoaded es limit) : e ∈ es :=
  List.mem_mergeSort.1 (List.mem_of_mem_take h)

namespace Directory

def decoys (d : Directory) : List Endpoint := d.rows.filter (·.isDecoy)

theorem decoysIn_eq (d : Directory) (region : String) :
    d.decoysIn region =
      (d.decoys.filter fun e => e.region == region && e.isActive).take maxDecoys := by
  rw [decoysIn, decoys, List.filter_filter]

theorem decoysIn_congr {d₁ d₂ : Directory} (h : d₁.decoys = d₂.decoys) (region : String) :
    d₁.decoysIn region = d₂.decoysIn region := by
  rw [decoysIn_eq, decoysIn_eq, h]

theorem isDecoy_of_mem_decoysIn {d : Directory} {region : String} {e : Endpoint}
    (h : e ∈ d.decoysIn region) : e.isDecoy = true := by
  have hmem := List.mem_filter.1 (List.mem_of_mem_take h)
  exact (Bool.and_eq_true_iff.1 hmem.2).2

end Directory

namespace Lookup

theorem choose_replace {l : Lookup} {verdict : Option Verdict} (hv : needsDecoys verdict = true)
    (region : String) (limit : Nat) :
    l.choose .replace region verdict limit =
      (l.decoysIn region).map (leastLoaded · (if limit = 0 then defaultLimit else limit)) := by
  have hc : l.candidates .replace region verdict = l.decoysIn region := by
    rw [candidates, if_pos hv]
  rw [choose, hc]
  cases l.decoysIn region <;> rfl

theorem choose_trusted {l : Lookup} {verdict : Option Verdict} (hv : needsDecoys verdict = false)
    (policy : DecoyPolicy) (region : String) (limit : Nat) :
    l.choose policy region verdict limit =
      (l.realIn region).map (leastLoaded · (if limit = 0 then defaultLimit else limit)) := by
  have hc : l.candidates policy region verdict = l.realIn region := by
    rw [candidates.eq_def, if_neg (by rw [hv]; exact Bool.false_ne_true)]
  rw [choose, hc]
  cases l.realIn region <;> rfl

theorem isDecoy_of_choose {l : Lookup}
    (hl : ∀ region es, l.decoysIn region = .ok es → ∀ e ∈ es, e.isDecoy = true)
    {verdict : Option Verdict} (hv : needsDecoys verdict = true) {region : String} {limit : Nat}
    {es : List Endpoint} (h : l.choose .replace region verdict limit = .ok es) :
    ∀ e ∈ es, e.isDecoy = true := by
  rw [choose_replace hv] at h
  cases hd : l.decoysIn region with
  | error err =>
      rw [hd] at h
      exact nomatch h
  | ok ds =>
      rw [hd] at h
      obtain rfl := Except.ok.inj h
      intro e he
      exact hl region ds hd e (mem_of_mem_leastLoaded he)

end Lookup

end RelayGate
