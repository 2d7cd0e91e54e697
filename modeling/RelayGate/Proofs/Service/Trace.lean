import RelayGate.Proofs.Service.Start

namespace RelayGate

/-- One operation of a run on the deployment that it finds, which faces the moment already. -/
structure Turn where
  before : Deployment
  operation : Operation

namespace Turn

def answer (t : Turn) : Answer := (t.before.step t.operation).1

def after (t : Turn) : Deployment := (t.before.step t.operation).2

end Turn

namespace Deployment

def turns (s : Deployment) : List (Moment × Operation) → List Turn
  | [] => []
  | (m, o) :: os => ⟨s.facing m, o⟩ :: turns ((s.facing m).step o).2 os

theorem mem_turns {s : Deployment} {os : List (Moment × Operation)} {t : Turn}
    (h : t ∈ s.turns os) : ∃ past m, t.before = (s.runFacing past).facing m := by
  induction os generalizing s with
  | nil => exact absurd h List.not_mem_nil
  | cons mo os ih =>
      rcases List.mem_cons.1 h with rfl | hmem
      · exact ⟨[], mo.1, rfl⟩
      · obtain ⟨past, m, ht⟩ := ih hmem
        exact ⟨mo :: past, m, ht⟩

theorem turns_eq_rounds (s : Deployment) (os : List (Moment × Operation)) :
    s.turns os =
      (s.rounds (os.map (Prod.map .facing id))).map fun t => ⟨t.scene, t.operation⟩ := by
  induction os generalizing s with
  | nil => rfl
  | cons mo os ih =>
      rw [turns, ih, ← stepAmid_facing]
      rfl

/-- A record that belongs to the world, so that no moment changes it, and to which turns add. -/
theorem record_run {α : Type} (record : World → List α) {entry : Turn → List α}
    (hentry : ∀ t : Turn, record t.after.world = record t.before.world ++ entry t)
    (s : Deployment) (os : List (Moment × Operation)) :
    record (s.runFacing os).world = record s.world ++ (s.turns os).flatMap entry := by
  induction os generalizing s with
  | nil => exact (List.append_nil _).symm
  | cons mo os ih =>
      have hfirst := hentry ⟨s.facing mo.1, mo.2⟩
      rw [turns, List.flatMap_cons, ← List.append_assoc]
      rw [runFacing, ih]
      exact congrArg (· ++ _) hfirst

theorem run_eq_runFacing {m : Moment} {s : Deployment} (h : m.Holds s.service) (os : List Operation) :
    s.run os = ((s.turns (os.map fun o => (m, o))).map Turn.answer,
      s.runFacing (os.map fun o => (m, o))) := by
  induction os generalizing s with
  | nil => rfl
  | cons o os ih =>
      have hs : s.facing m = s := by rw [facing, h.service_eq]
      simp only [run, ih (h.step o), List.map_cons, turns, runFacing, hs, Turn.answer]

/-- While the services behind the verifiers stay as they were at the start, a run is the run through
this one moment. -/
theorem run_of_start {settings : Settings} {connector : Option PlayConnector}
    {validator : Option Validator} {fresh : Bytes} {service : Service} {m : Moment}
    (h : Service.start settings connector validator fresh = .ok service)
    (hconnector : ∀ c ∈ connector, m.connector = c) (hvalidator : ∀ v ∈ validator, m.validator = v)
    (hdecode : ∀ backend, m.connector settings.credentials = .ok backend → backend = m.decode)
    (world : World) (os : List Operation) :
    (⟨service, world⟩ : Deployment).run os =
      (((⟨service, world⟩ : Deployment).turns (os.map fun o => (m, o))).map Turn.answer,
        (⟨service, world⟩ : Deployment).runFacing (os.map fun o => (m, o))) :=
  run_eq_runFacing (.start h hconnector hvalidator hdecode) os

theorem issuer_run (s : Deployment) (os : List (Moment × Operation)) :
    (s.runFacing os).service.issuer = s.service.issuer := by
  induction os generalizing s with
  | nil => rfl
  | cons mo os ih => exact (ih _).trans (issuer_step (s.facing mo.1) mo.2)

end Deployment

end RelayGate
