import Mathlib.Data.List.Basic
import RelayGate.Proofs.Service.Disclosure
import RelayGate.Proofs.Service.Effects

namespace RelayGate

namespace Deployment

theorem nodup_facing_run {s : Deployment} (h : s.world.directory.ids.Nodup)
    (os : List (Moment × Operation)) : (s.runFacing os).world.directory.ids.Nodup := by
  induction os generalizing s with
  | nil => exact h
  | cons mo os ih => exact ih ((Turn.leaves ⟨s.facing mo.1, mo.2⟩).nodup h)

theorem samples_run (s : Deployment) (os : List (Moment × Operation)) :
    (s.runFacing os).world.directory.samples =
      s.world.directory.samples ++ (s.turns os).filterMap Turn.sample? := by
  rw [List.filterMap_eq_flatMap_toList]
  exact record_run (fun w => w.directory.samples) (fun t => t.leaves.samples) s os

theorem scans_run (s : Deployment) (os : List (Moment × Operation)) :
    (s.runFacing os).world.scans = s.world.scans ++ (s.turns os).filterMap Turn.scan? := by
  rw [List.filterMap_eq_flatMap_toList]
  exact record_run World.scans (fun t => t.leaves.scans) s os

/-- Wherever a service starts from a directory that calls have filled, and whatever has happened
since: each id has one row; a report, a load or a scan is either in order, and then it is answered as
done and changes just what it is to change, or is not in order, and then it is answered by an error
and changes nothing; and the samples and scans are, in order, those of the reports and scans that
were answered as done. -/
theorem writes_whole {start : Deployment} {calls : List Directory.Call}
    (hstart : start.world.directory = Directory.empty.run calls)
    {past : List (Moment × Operation)} {m : Moment} {s : Deployment}
    (hs : (start.runFacing past).facing m = s) :
    s.world.directory.ids.Nodup ∧
      (∀ o, o.isWrite = true →
        (∃ t, s.step o = (.written (.ok ()), t) ∧ s.Write o t) ∨
          ∃ e, s.step o = (.written (.error e), s) ∧ ∀ t, ¬ s.Write o t) ∧
      s.world.directory.samples =
        start.world.directory.samples ++ (start.turns past).filterMap Turn.sample? ∧
      s.world.scans = start.world.scans ++ (start.turns past).filterMap Turn.scan? := by
  have hdistinct : start.world.directory.ids.Nodup := by
    rw [hstart]
    exact Directory.nodup_run (d := Directory.empty) List.nodup_nil calls
  subst hs
  exact ⟨nodup_facing_run hdistinct past, fun o => Deployment.step_write _, samples_run start past,
    scans_run start past⟩

end Deployment

namespace Fleet

def report (id : String) : Operation := .acceptReport ⟨id, "degraded", 9, 100, 5, .ofRatio 99 1⟩

def opening : Deployment :=
  ⟨service, { World.atClock clock with directory := Directory.empty.run (relays.map .upsert) }⟩

def reported : List (Moment × Operation) :=
  [(moment, report "relay-idle"), (moment, report " relay-idle")]

def reopened : Deployment := (opening.runFacing reported).facing moment

end Fleet

theorem Deployment.writes_whole_fleet :
    Fleet.reopened.world.directory.samples =
        [⟨1760000000, "relay-idle", 9, 100, 5, .ofRatio 99 1⟩] ∧
      (∃ s, Fleet.reopened.step (Fleet.report "relay-eu") = (.written (.ok ()), s) ∧
        Fleet.reopened.Write (Fleet.report "relay-eu") s) ∧
      ∃ e, Fleet.reopened.step (Fleet.report " relay-eu") =
        (.written (.error e), Fleet.reopened) := by
  have hstart : Fleet.opening.world.directory = Directory.empty.run (Fleet.relays.map .upsert) := rfl
  have hs : (Fleet.opening.runFacing Fleet.reported).facing Fleet.moment = Fleet.reopened := rfl
  obtain ⟨-, hwrite, hsamples, -⟩ := Deployment.writes_whole hstart hs
  have hsample : Fleet.opening.world.directory.samples ++
      (Fleet.opening.turns Fleet.reported).filterMap Turn.sample? =
        [⟨1760000000, "relay-idle", 9, 100, 5, .ofRatio 99 1⟩] := by decide +kernel
  refine ⟨hsamples.trans hsample, ?_, ?_⟩
  · let t : Turn := ⟨Fleet.reopened, Fleet.report "relay-eu"⟩
    have hdone : t.done = true := by decide +kernel
    rcases hwrite (Fleet.report "relay-eu") rfl with hok | ⟨e, herror, -⟩
    · exact hok
    · have hnot : t.done = false := Turn.not_done_of_error (congrArg Prod.fst herror)
      exact nomatch hdone.symm.trans hnot
  · let t : Turn := ⟨Fleet.reopened, Fleet.report " relay-eu"⟩
    have hfailed : t.done = false := by decide +kernel
    rcases hwrite (Fleet.report " relay-eu") rfl with ⟨s, hok, -⟩ | ⟨e, herror, -⟩
    · have hdone : t.done = true := Turn.done_of_ok (congrArg Prod.fst hok)
      exact nomatch hfailed.symm.trans hdone
    · exact ⟨e, herror⟩

end RelayGate
