import RelayGate.Proofs.Service.Trace
import RelayGate.Proofs.Service.Writes

namespace RelayGate

namespace Deployment

def Serves (s : Deployment) (w : World) : Prop :=
  ∃ calls events audit, w = { s.world with calls := calls, events := events, audit := audit }

theorem serves_self (s : Deployment) : s.Serves s.world :=
  ⟨s.world.calls, s.world.events, s.world.audit, rfl⟩

theorem serves_attended (s : Deployment) (i : Option AttestInput) :
    s.Serves (s.attended i).world := by
  cases i with
  | none => exact s.serves_self
  | some i =>
      rw [attended, evaluate_eq]
      exact ⟨_, _, _, rfl⟩

theorem serves_issuePack (s : Deployment) (r : PackRequest) :
    s.Serves (s.issuePack r).2.world := by
  obtain ⟨events, hafter⟩ := s.after_issuePackAmid .still r
  obtain ⟨calls, _, audit, hw⟩ := s.serves_attended (Operation.issuePack r).evaluated?
  rw [← issuePackAmid_still, hafter, telling, hw]
  exact ⟨calls, events, audit, rfl⟩

theorem serves_attestClient (s : Deployment) (r : AttestRequest) :
    s.Serves (s.attestClient r).2.world := by
  rw [after_attestClient]
  exact s.serves_attended _

end Deployment

namespace Turn

/-- Whether the turn was a success that is told by no more than that. -/
def done (t : Turn) : Bool :=
  match t.answer with
  | .written (.ok ()) => true
  | _ => false

theorem done_of_ok {t : Turn} (h : t.answer = .written (.ok ())) : t.done = true := by
  rw [done, h]

theorem not_done_of_error {t : Turn} {e : Service.Error} (h : t.answer = .written (.error e)) :
    t.done = false := by
  rw [done, h]

def sample? (t : Turn) : Option Sample :=
  match t.operation with
  | .acceptReport r =>
    if t.done then
      some ⟨t.before.world.clock.seconds, r.gateway, r.users, r.bandwidth, r.packets, r.uptime⟩
    else none
  | _ => none

def scan? (t : Turn) : Option ScanRecord :=
  match t.operation with
  | .logScan r =>
    if t.done then
      (Named.ofName? r.channel).map fun channel =>
        Deployment.scanRecord channel r t.before.world.clock.seconds
    else none
  | _ => none

/-- What a turn leaves on record. -/
structure Leaves (t : Turn) : Prop where
  nodup : t.before.world.directory.ids.Nodup → t.after.world.directory.ids.Nodup
  samples : t.after.world.directory.samples = t.before.world.directory.samples ++ t.sample?.toList
  scans : t.after.world.scans = t.before.world.scans ++ t.scan?.toList

theorem leaves_of_serves {t : Turn} (h : t.before.Serves t.after.world) (hsample : t.sample? = none)
    (hscan : t.scan? = none) : t.Leaves := by
  obtain ⟨calls, events, audit, hw⟩ := h
  refine ⟨?_, ?_, ?_⟩
  · rw [hw]
    exact id
  · rw [hw, hsample]
    exact (List.append_nil _).symm
  · rw [hw, hscan]
    exact (List.append_nil _).symm

theorem leaves_of_silence {t : Turn}
    (hnodup : t.before.world.directory.ids.Nodup → t.after.world.directory.ids.Nodup)
    (hsamples : t.after.world.directory.samples = t.before.world.directory.samples)
    (hscans : t.after.world.scans = t.before.world.scans) (hsample : t.sample? = none)
    (hscan : t.scan? = none) : t.Leaves := by
  refine ⟨hnodup, ?_, ?_⟩
  · rw [hsamples, hsample]
    exact (List.append_nil _).symm
  · rw [hscans, hscan]
    exact (List.append_nil _).symm

theorem sample?_of_not_done {t : Turn} (h : t.done = false) : t.sample? = none := by
  rw [sample?, h]
  split <;> rfl

theorem scan?_of_not_done {t : Turn} (h : t.done = false) : t.scan? = none := by
  rw [scan?, h]
  split <;> rfl

theorem leaves_of_write {t : Turn} (ho : t.operation.isWrite = true) : t.Leaves := by
  obtain ⟨s, o⟩ := t
  rcases s.step_write ho with ⟨s', h, hwrite⟩ | ⟨e, h, -⟩
  · have hafter : (⟨s, o⟩ : Turn).after = s' := congrArg Prod.snd h
    have hdone : (⟨s, o⟩ : Turn).done = true := done_of_ok (congrArg Prod.fst h)
    have hnodup : s.world.directory.ids.Nodup → s'.world.directory.ids.Nodup := by
      rw [hwrite.ids]
      exact id
    rw [← hafter] at hnodup
    -- A write adds to one record at most.
    cases hwrite with
    | report hid hstatus huptime hup hrows hrow =>
        refine ⟨hnodup, ?_, ?_⟩
        · simp only [hafter, sample?, hdone]
          rfl
        · rw [hafter]
          exact (List.append_nil _).symm
    | load hup hrows hrow =>
        refine leaves_of_silence hnodup ?_ ?_ rfl rfl <;> rw [hafter]
    | scan hchannel hup =>
        refine ⟨hnodup, ?_, ?_⟩
        · rw [hafter]
          exact (List.append_nil _).symm
        · simp only [hafter, scan?, hdone, hchannel, Channel.ofName?_name]
          rfl
  · have hafter : (⟨s, o⟩ : Turn).after = s := congrArg Prod.snd h
    have hdone : (⟨s, o⟩ : Turn).done = false := not_done_of_error (congrArg Prod.fst h)
    refine leaves_of_silence ?_ ?_ ?_ (sample?_of_not_done hdone) (scan?_of_not_done hdone)
    · rw [hafter]
      exact id
    all_goals rw [hafter]

theorem leaves (t : Turn) : t.Leaves := by
  cases ho : t.operation with
  | issuePack r =>
      refine leaves_of_serves ?_ (by rw [sample?, ho]) (by rw [scan?, ho])
      simpa only [after, Deployment.step, Prod.map_snd, id_eq, ho] using t.before.serves_issuePack r
  | attestClient r =>
      refine leaves_of_serves ?_ (by rw [sample?, ho]) (by rw [scan?, ho])
      simpa only [after, Deployment.step, Prod.map_snd, id_eq, ho] using t.before.serves_attestClient r
  | listing | challenge =>
      refine leaves_of_serves ?_ (by rw [sample?, ho]) (by rw [scan?, ho])
      simpa only [after, Deployment.step, ho] using t.before.serves_self
  | upsert e =>
      have hafter : t.after.world = t.before.world.upsert e := by rw [after, ho]; rfl
      refine leaves_of_silence ?_ ?_ ?_ (by rw [sample?, ho]) (by rw [scan?, ho])
      · intro h
        rw [hafter]
        exact Directory.nodup_perform h (.upsert e)
      · rw [hafter]
        exact t.before.world.directory.samples_upsert e
      · rw [hafter]
        rfl
  | advance | setFaults =>
      have hafter : t.after.world.directory = t.before.world.directory ∧
          t.after.world.scans = t.before.world.scans := by
        rw [after, ho]
        exact ⟨rfl, rfl⟩
      obtain ⟨hdirectory, hscans⟩ := hafter
      refine leaves_of_silence ?_ ?_ hscans (by rw [sample?, ho]) (by rw [scan?, ho])
      · rw [hdirectory]
        exact id
      · rw [hdirectory]
  | acceptReport r => exact leaves_of_write (by rw [ho]; rfl)
  | setLoad id load => exact leaves_of_write (by rw [ho]; rfl)
  | logScan r => exact leaves_of_write (by rw [ho]; rfl)

end Turn

end RelayGate
