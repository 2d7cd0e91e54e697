import RelayGate.Proofs.Service.Events
import RelayGate.Proofs.Service.Unwinding

namespace RelayGate

namespace Deployment

def record? (s : Deployment) (o : Operation) : Option AuditRecord :=
  o.evaluated?.bind fun i => auditRecord? s.world.faults.audit i (s.evaluate i).1

variable {s : Deployment}

theorem audit_evaluate (s : Deployment) (i : AttestInput) : (s.evaluate i).2.world.audit =
    s.world.audit ++ (auditRecord? s.world.faults.audit i (s.evaluate i).1).toList := by
  rw [evaluate_eq]

theorem audit_telling (s : Deployment) (events : List Event) :
    (s.telling events).world.audit = s.world.audit := rfl

theorem audit_attended (s : Deployment) (o : Operation) :
    (s.attended o.evaluated?).world.audit = s.world.audit ++ (s.record? o).toList := by
  rw [record?]
  cases o.evaluated? with
  | none => exact (List.append_nil _).symm
  | some i => exact s.audit_evaluate i

theorem audit_write (s : Deployment) {o : Operation} (ho : o.isWrite = true) :
    (s.step o).2.world.audit = s.world.audit := by
  rcases s.step_write ho with ⟨t, h, hwrite⟩ | ⟨e, h, -⟩
  · rw [h]
    exact hwrite.audit
  · rw [h]

theorem audit_stepAmid (s : Deployment) (a : Surroundings) (o : Operation) :
    (s.stepAmid a o).2.world.audit =
      (s.amid a).world.audit ++ ((s.amid a).record? o).toList := by
  cases o with
  | issuePack r =>
      obtain ⟨events, hafter⟩ := (s.amid a).after_issuePackAmid a r
      simp only [stepAmid, Prod.map_snd, id_eq]
      rw [hafter, audit_telling, audit_attended]
  | attestClient r =>
      simp only [stepAmid, step, Prod.map_snd, id_eq]
      rw [after_attestClient, audit_attended]
  | acceptReport | setLoad | logScan =>
      simp only [stepAmid]
      rw [(s.amid a).audit_write rfl]
      exact (List.append_nil _).symm
  | listing | challenge | upsert | advance | setFaults => exact (List.append_nil _).symm

end Deployment

def Round.record? (t : Round) : Option AuditRecord := t.scene.record? t.operation

theorem Deployment.audit_rounds (s : Deployment) (os : List (Surroundings × Operation)) :
    (s.runAmid os).world.audit = s.world.audit ++ (s.rounds os).filterMap Round.record? := by
  induction os generalizing s with
  | nil => exact (List.append_nil _).symm
  | cons ao os ih =>
      obtain ⟨a, o⟩ := ao
      rw [runAmid, ih, audit_stepAmid, rounds, List.filterMap_cons, List.append_assoc]
      rw [Round.record?, Round.scene]
      cases (s.amid a).record? o <;> rfl

def Surroundings.unaudited (a : Surroundings) : Surroundings := { a with audit := id }

theorem Operation.eq_of_unaudited {o p : Operation} (h : o.unaudited = p.unaudited) :
    o = p ∨ ∃ f g, o = .setFaults f ∧ p = .setFaults g ∧ f.unaudited = g.unaudited := by
  cases o with
  | setFaults f =>
      cases p with
      | setFaults g => exact .inr ⟨f, g, rfl, rfl, Operation.setFaults.inj h⟩
      | _ => exact nomatch h
  | _ =>
      left
      cases p with
      | setFaults g => exact nomatch h
      | _ => exact h

namespace Deployment

def unaudited (s : Deployment) : Deployment :=
  { s with world := { s.world with audit := [], faults := s.world.faults.unaudited } }

theorem outcome_unaudited (s : Deployment) (i : AttestInput) :
    (s.unaudited.evaluate i).1 = (s.evaluate i).1 := by
  rw [outcome_evaluate, outcome_evaluate]
  rfl

theorem evaluate_unaudited (s : Deployment) (i : AttestInput) :
    (s.unaudited.evaluate i).2.unaudited = (s.evaluate i).2.unaudited := by
  rw [evaluate_eq, evaluate_eq]
  rfl

theorem amid_unaudited (s : Deployment) (a : Surroundings) :
    (s.unaudited.amid a.unaudited).unaudited = (s.amid a).unaudited := rfl

theorem unwinding_unaudited : Unwinding fun s t => s.unaudited = t.unaudited where
  issuer h := congrArg (fun s => s.service.issuer) h
  clock h := congrArg (fun s => s.world.clock) h
  directory h := congrArg (fun s => s.world.directory) h
  faults h := congrArg (fun s => s.world.faults) h
  evaluate {s t} h i := {
    answer := by rw [← outcome_unaudited s, ← outcome_unaudited t, h]
    after := by rw [← evaluate_unaudited s, ← evaluate_unaudited t, h] }
  emit h e := congrArg (fun s => { s with world := s.world.emit e }) h
  record h r :=
    congrArg (fun s => { s with world := { s.world with scans := s.world.scans ++ [r] } }) h
  rewrite h d := congrArg (fun s => { s with world := { s.world with directory := d } }) h
  advance h now := congrArg (fun s => { s with world := { s.world with clock := now } }) h
  fail {s t} h {f g} hfg := by
    simp only [unaudited, hfg]
    exact congrArg (fun s => { s with world := { s.world with faults := g.unaudited } }) h

end Deployment

def Round.unaudited (t : Round) : Answer × Deployment := (t.answer, t.after.unaudited)

namespace Deployment

variable {s t : Deployment} {a b : Surroundings} {o p : Operation}

theorem stepAmid_unaudited (h : s.unaudited = t.unaudited) (ha : a.unaudited = b.unaudited)
    (hop : o.unaudited = p.unaudited) :
    Agree (fun s t => s.unaudited = t.unaudited) (s.stepAmid a o) (t.stepAmid b p) := by
  have hscene : (s.amid a).unaudited = (t.amid b).unaudited := by
    rw [← amid_unaudited s, ← amid_unaudited t, h, ha]
  have hsource : a.source = b.source := (congrArg Surroundings.source ha :)
  rcases Operation.eq_of_unaudited hop with rfl | ⟨f, g, rfl, rfl, hfg⟩
  · cases o with
    | issuePack r =>
        exact (unwinding_unaudited.issuePackAmid hscene r (congrArg Surroundings.probes ha :) hsource
          (congrArg Surroundings.later ha :)).map Answer.pack
    | listing =>
        refine ⟨?_, hscene⟩
        simp only [stepAmid, hsource, unwinding_unaudited.lookup hscene]
    | _ =>
        simp only [stepAmid]
        exact unwinding_unaudited.step hscene _
  · exact ⟨rfl, unwinding_unaudited.fail hscene hfg⟩

theorem rounds_unaudited (h : s.unaudited = t.unaudited) {os ps : List (Surroundings × Operation)}
    (hop : os.map (Prod.map Surroundings.unaudited Operation.unaudited) =
      ps.map (Prod.map Surroundings.unaudited Operation.unaudited)) :
    (s.rounds os).map Round.unaudited = (t.rounds ps).map Round.unaudited := by
  induction os generalizing s t ps with
  | nil =>
      rw [List.map_nil, eq_comm, List.map_eq_nil_iff] at hop
      rw [hop]
      rfl
  | cons ao os ih =>
      cases ps with
      | nil => exact nomatch hop
      | cons bp ps =>
          obtain ⟨a, o⟩ := ao
          obtain ⟨b, p⟩ := bp
          obtain ⟨hfirst, hrest⟩ := List.cons.inj hop
          obtain ⟨ha, hop'⟩ := Prod.mk.inj hfirst
          obtain ⟨hanswer, hafter⟩ := stepAmid_unaudited h ha hop'
          rw [rounds, rounds, List.map_cons, List.map_cons, ih hafter hrest]
          exact congrArg (· :: _) (Prod.ext hanswer hafter)

/-- However the surroundings behave, the records of a run are those of the verdicts that were reached
while records could be written, in their order; and two runs that differ in nothing but whether
records can be written have the same answers and leave the same behind in every round, the records
apart. A run in which nothing but the operations happens is among these runs. -/
theorem audit_exact (s : Deployment) :
    (∀ os, (s.runAmid os).world.audit = s.world.audit ++ (s.rounds os).filterMap Round.record?) ∧
    (∀ os ps, os.map (Prod.map Surroundings.unaudited Operation.unaudited) =
        ps.map (Prod.map Surroundings.unaudited Operation.unaudited) →
      (s.rounds os).map Round.unaudited = (s.rounds ps).map Round.unaudited) ∧
    ∀ os, s.run os = ((s.rounds (os.map fun o => (.still, o))).map Round.answer,
      s.runAmid (os.map fun o => (.still, o))) :=
  ⟨s.audit_rounds, fun _ _ hop => rounds_unaudited rfl hop, s.run_eq_runAmid_still⟩

end Deployment

namespace Fleet

def inquiry : AttestRequest := ⟨"android", "token", "device", none⟩

def heeded : List (Surroundings × Operation) := [(.still, .attestClient inquiry)]

def unheeded : List (Surroundings × Operation) :=
  [({ Surroundings.still with audit := fun _ => some "disk full" }, .attestClient inquiry)]

end Fleet

theorem Deployment.audit_exact_fleet :
    ((Fleet.troubled .none).runAmid Fleet.heeded).world.audit =
        [⟨"device", "android", "token", true, .strong, 1760000000⟩] ∧
      ((Fleet.troubled .none).runAmid Fleet.unheeded).world.audit = [] ∧
      ((Fleet.troubled .none).rounds Fleet.heeded).map Round.unaudited =
        ((Fleet.troubled .none).rounds Fleet.unheeded).map Round.unaudited := by
  obtain ⟨haudit, hsame, -⟩ := Deployment.audit_exact (Fleet.troubled .none)
  have hheeded : ((Fleet.troubled .none).rounds Fleet.heeded).filterMap Round.record? =
      [⟨"device", "android", "token", true, .strong, 1760000000⟩] := by decide +kernel
  have hunheeded : ((Fleet.troubled .none).rounds Fleet.unheeded).filterMap Round.record? = [] := by
    decide +kernel
  refine ⟨?_, ?_, hsame _ _ rfl⟩
  · rw [haudit, hheeded]
    rfl
  · rw [haudit, hunheeded]
    rfl

end RelayGate
