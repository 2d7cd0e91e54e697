import RelayGate.Proofs.Service.Faults
import RelayGate.Proofs.Service.Unwinding
import RelayGate.Proofs.Trust.Settled

namespace RelayGate

def Operation.isRequest : Operation → Bool
  | .issuePack _ | .attestClient _ | .logScan _ | .listing | .challenge _ => true
  | .acceptReport _ | .setLoad _ _ | .upsert _ | .advance _ | .setFaults _ => false

namespace Deployment

/-- What answers depend on: none of the trails, and a connection as it is once it has been tried. -/
def essence (s : Deployment) : Deployment where
  service := { s.service with evaluator := s.service.evaluator.settled }
  world := { s.world with
    audit := []
    scans := []
    events := []
    calls := []
    faults := s.world.faults.unaudited }

theorem outcome_essence (s : Deployment) (i : AttestInput) :
    (s.essence.evaluate i).1 = (s.evaluate i).1 := by
  rw [outcome_evaluate, outcome_evaluate]
  exact s.service.evaluator.outcome_settled i s.world.clock

theorem essence_evaluate (s : Deployment) (i : AttestInput) :
    (s.evaluate i).2.essence = s.essence := by
  rw [evaluate_eq]
  simp only [essence, Evaluator.settled_evaluate]

theorem unwinding_essence : Unwinding fun s t => s.essence = t.essence where
  issuer h := congrArg (fun s => s.service.issuer) h
  clock h := congrArg (fun s => s.world.clock) h
  directory h := congrArg (fun s => s.world.directory) h
  faults h := congrArg (fun s => s.world.faults) h
  evaluate {s t} h i := {
    answer := by rw [← outcome_essence s, ← outcome_essence t, h]
    after := by rw [essence_evaluate, essence_evaluate, h] }
  emit h _ := h
  record h _ := h
  rewrite h d := congrArg (fun s => { s with world := { s.world with directory := d } }) h
  advance h now := congrArg (fun s => { s with world := { s.world with clock := now } }) h
  fail {s t} h {f g} hfg := by
    simp only [essence, hfg]
    exact congrArg (fun s => { s with world := { s.world with faults := g.unaudited } }) h

theorem essence_issuePackAmid (s : Deployment) (a : Surroundings) (r : PackRequest) :
    (s.issuePackAmid a r).2.essence = s.essence := by
  have hcourse := s.course_issuePackAmid a r
  generalize s.issuePackAmid a r = result at hcourse
  cases hcourse with
  | refused => rfl
  | failed => exact s.essence_evaluate _
  | @served verdict t h hassessed =>
      have hassess : t.essence = s.essence := by
        cases hassessed with
        | unattested => rfl
        | attested => exact s.essence_evaluate _
      rcases t.issueForAmid_cases a r verdict with ⟨p, region, hp, -⟩ | ⟨e, he, -⟩
      · rw [hp]
        exact hassess
      · rw [he]
        exact hassess

theorem essence_attestClient (s : Deployment) (r : AttestRequest) :
    (s.attestClient r).2.essence = s.essence := by
  by_cases hvisible : ∃ c ∈ r.device.toList, Text.isBlank c = false
  · rw [attestClient_of_visible hvisible]
    exact s.essence_evaluate _
  · rw [attestClient_of_blank (by simpa using hvisible)]

theorem essence_logScan (s : Deployment) (r : ScanReport) :
    (s.logScan r).2.essence = s.essence := by
  rcases s.settles_logScan r with ⟨t, h, hwrite⟩ | ⟨e, h, -⟩
  · rw [h]
    cases hwrite
    rfl
  · rw [h]

theorem essence_step (s : Deployment) {o : Operation} (ho : o.isRequest = true) :
    (s.step o).2.essence = s.essence := by
  cases o with
  | issuePack r =>
      simp only [step, Prod.map_snd, id_eq, ← issuePackAmid_still]
      exact s.essence_issuePackAmid .still r
  | attestClient r =>
      simp only [step, Prod.map_snd, id_eq]
      exact s.essence_attestClient r
  | logScan r =>
      simp only [step, Prod.map_snd, id_eq]
      exact s.essence_logScan r
  | listing | challenge => rfl
  | acceptReport | setLoad | upsert | advance | setFaults => exact absurd ho Bool.false_ne_true

def kept {α : Type} (xs : List (α × Bool)) : List α := (xs.filter Prod.snd).map Prod.fst

variable {s t : Deployment}

theorem run_kept (h : s.essence = t.essence) {os : List (Operation × Bool)}
    (hos : ∀ x ∈ os, x.2 = false → x.1.isRequest = true) :
    kept ((s.run (os.map Prod.fst)).1.zip (os.map Prod.snd)) = (t.run (kept os)).1 ∧
      (s.run (os.map Prod.fst)).2.essence = (t.run (kept os)).2.essence := by
  induction os generalizing s t with
  | nil => exact ⟨rfl, h⟩
  | cons x os ih =>
      obtain ⟨o, mark⟩ := x
      have hrest : ∀ x ∈ os, x.2 = false → x.1.isRequest = true :=
        fun x hx => hos x (List.mem_cons_of_mem _ hx)
      -- A request that is left out keeps the essence, and what is kept is answered by the essence.
      cases mark with
      | false =>
          have ho : o.isRequest = true := hos _ List.mem_cons_self rfl
          obtain ⟨hanswers, hafter⟩ := ih ((s.essence_step ho).trans h) hrest
          exact ⟨hanswers, hafter⟩
      | true =>
          obtain ⟨hanswer, hstep⟩ := unwinding_essence.step h o
          obtain ⟨hanswers, hafter⟩ := ih hstep hrest
          exact ⟨congrArg₂ List.cons hanswer hanswers, hafter⟩

/-- Of any run, requests of clients can be left out in any places: the other operations are answered
as they were, the directory comes to be the same, and whatever comes next is answered alike. -/
theorem clients_independent (s : Deployment) {os : List (Operation × Bool)}
    (hos : ∀ x ∈ os, x.2 = false → x.1.isRequest = true) :
    kept ((s.run (os.map Prod.fst)).1.zip (os.map Prod.snd)) = (s.run (kept os)).1 ∧
      (s.run (os.map Prod.fst)).2.world.directory = (s.run (kept os)).2.world.directory ∧
      ∀ o, ((s.run (os.map Prod.fst)).2.step o).1 = ((s.run (kept os)).2.step o).1 := by
  obtain ⟨hanswers, hafter⟩ := run_kept (s := s) rfl hos
  exact ⟨hanswers, unwinding_essence.directory hafter,
    fun o => (unwinding_essence.step hafter o).answer⟩

end Deployment

namespace Fleet

def visits : List (Operation × Bool) :=
  [(.issuePack unreachable, false), (.attestClient ⟨"android", "token", "device", none⟩, true)]

end Fleet

theorem Deployment.clients_independent_fleet :
    ((Fleet.troubled .none).run (Fleet.visits.map Prod.fst)).2.world.calls =
        [.connect none, .decode "net.kestrel" "unreachable", .decode "net.kestrel" "token"] ∧
      ((Fleet.troubled .none).run (Deployment.kept Fleet.visits)).2.world.calls =
        [.connect none, .decode "net.kestrel" "token"] ∧
      Deployment.kept (((Fleet.troubled .none).run (Fleet.visits.map Prod.fst)).1.zip
        (Fleet.visits.map Prod.snd)) = [.outcome (.ok ⟨true, .strong, none⟩)] := by
  have hmarks : ∀ x ∈ Fleet.visits, x.2 = false → x.1.isRequest = true := by
    intro x hx
    rcases List.mem_pair.1 hx with rfl | rfl
    · exact fun _ => rfl
    · exact fun h => nomatch h
  obtain ⟨hanswers, -, -⟩ := Deployment.clients_independent (Fleet.troubled .none) hmarks
  refine ⟨by decide +kernel, by decide +kernel, ?_⟩
  rw [hanswers]
  rfl

end RelayGate
