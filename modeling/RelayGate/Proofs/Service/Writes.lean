import RelayGate.Proofs.Relay.Directory
import RelayGate.Proofs.Service.Core
import RelayGate.Proofs.Text.Blank
import RelayGate.Proofs.Trust.Evaluator

namespace RelayGate

theorem Named.ofName?_eq_some_iff {α : Type} [Named α] (h : ∀ a : α, ofName? (name a) = some a)
    {s : String} {a : α} : ofName? s = some a ↔ s = name a := by
  constructor
  · intro hs
    exact (name_of_ofName? hs).symm
  · rintro rfl
    exact h a

theorem Named.name_injective {α : Type} [Named α] (h : ∀ a : α, ofName? (name a) = some a) :
    Function.Injective (name : α → String) := by
  intro a b hab
  rw [← Option.some_inj, ← h a, ← h b, hab]

theorem RelayStatus.ofName?_name (status : RelayStatus) :
    Named.ofName? (Named.name status) = some status := by
  cases status <;> decide

theorem Channel.ofName?_name (channel : Channel) :
    Named.ofName? (Named.name channel) = some channel := by
  cases channel <;> decide

namespace Directory

variable {d : Directory}

theorem mem_ids {id : String} {front rest : List Endpoint} {row : Endpoint}
    (hrows : d.rows = front ++ row :: rest) (hrow : row.id = id) : id ∈ d.ids := by
  rw [ids, hrows, List.map_append, List.map_cons, hrow]
  exact List.mem_append_right _ List.mem_cons_self

theorem samples_upsert (d : Directory) (e : Endpoint) : (d.upsert e).samples = d.samples := by
  rw [upsert]
  split <;> rfl

theorem applyReport_of_mem (now : UInt64) {r : RelayReport} (h : r.endpoint ∈ d.ids) :
    ∃ front row rest, d.rows = front ++ row :: rest ∧ row.id = r.endpoint ∧
      d.applyReport now r = .ok {
        rows := front ++ { row with status := r.status, users := r.users, lastSeen := some now } :: rest
        samples := d.samples ++ [r.sampleAt now] } := by
  obtain ⟨e, he⟩ := exists_get? h
  obtain ⟨front, row, rest, hrows, hrow, -, hupdate⟩ := exists_updateRow
    (fun e => { e with status := r.status, users := r.users, lastSeen := some now }) h
  refine ⟨front, row, rest, hrows, hrow, ?_⟩
  simp only [applyReport, he, hupdate]

theorem applyReport_of_not_mem (now : UInt64) {r : RelayReport} (h : r.endpoint ∉ d.ids) :
    d.applyReport now r = .error (.notFound r.endpoint) := by
  simp only [applyReport, get?_eq_none_iff.2 h]

theorem setLoad_of_mem (now : UInt64) (load : Binary64) {id : String} (h : id ∈ d.ids) :
    ∃ front row rest, d.rows = front ++ row :: rest ∧ row.id = id ∧
      d.setLoad now id load = .ok { d with rows := front ++ withLoad now load row :: rest } := by
  obtain ⟨e, he⟩ := exists_get? h
  obtain ⟨front, row, rest, hrows, hrow, -, hupdate⟩ := exists_updateRow (withLoad now load) h
  refine ⟨front, row, rest, hrows, hrow, ?_⟩
  simp only [setLoad, he, hupdate]

theorem setLoad_of_not_mem (now : UInt64) (load : Binary64) {id : String} (h : id ∉ d.ids) :
    d.setLoad now id load = .error (.notFound id) := by
  simp only [setLoad, get?_eq_none_iff.2 h]

end Directory

def Operation.isWrite : Operation → Bool
  | logScan _ | acceptReport _ | setLoad _ _ => true
  | _ => false

namespace Deployment

/-- A write that is in order, and the deployment after it. Ids are taken exactly, though an id of
blanks only is not one. -/
inductive Write (s : Deployment) : Operation → Deployment → Prop
  | report {r : OperatorReport} {status : RelayStatus} {front rest : List Endpoint} {row : Endpoint}
      (hid : ∃ c ∈ r.gateway.toList, Text.isBlank c = false) (hstatus : r.status = Named.name status)
      (huptime : r.uptime.isNaN = false ∧ 0 ≤ r.uptime.signedUnits ∧
        r.uptime.signedUnits ≤ 100 * 2 ^ 1074)
      (hup : s.world.faults.applyReport = none)
      (hrows : s.world.directory.rows = front ++ row :: rest) (hrow : row.id = r.gateway) :
      Write s (.acceptReport r) { s with world := { s.world with
        directory := {
          rows := front ++
            { row with status := status, users := r.users, lastSeen := some s.world.clock.seconds } ::
              rest
          samples := s.world.directory.samples ++
            [⟨s.world.clock.seconds, r.gateway, r.users, r.bandwidth, r.packets, r.uptime⟩] }
        events := s.world.events ++ [.statusUpdated r.gateway status] } }
  | load {id : String} {load : Binary64} {front rest : List Endpoint} {row : Endpoint}
      (hup : s.world.faults.setLoad = none)
      (hrows : s.world.directory.rows = front ++ row :: rest) (hrow : row.id = id) :
      Write s (.setLoad id load) { s with world := { s.world with
        directory := { s.world.directory with
          rows := front ++ Directory.withLoad s.world.clock.seconds (storedLoad load) row :: rest } } }
  | scan {r : ScanReport} {channel : Channel} (hchannel : r.channel = Named.name channel)
      (hup : s.world.faults.discovery = none) :
      Write s (.logScan r) { s with world := { s.world with
        scans := s.world.scans ++ [scanRecord channel r s.world.clock.seconds]
        events := s.world.events ++ [.discoveryLogged channel r.success] } }

theorem Write.ids {s t : Deployment} {o : Operation} (h : s.Write o t) :
    t.world.directory.ids = s.world.directory.ids := by
  cases h with
  | report hid hstatus huptime hup hrows hrow => simp [Directory.ids, hrows]
  | load hup hrows hrow => simp [Directory.ids, hrows, Directory.withLoad]
  | scan hchannel hup => rfl

theorem Write.audit {s t : Deployment} {o : Operation} (h : s.Write o t) :
    t.world.audit = s.world.audit := by
  cases h <;> rfl

theorem Write.service {s t : Deployment} {o : Operation} (h : s.Write o t) :
    t.service = s.service := by
  cases h <;> rfl

/-- The write is done, or it is not in order and nothing happens. -/
def Settles (s : Deployment) (o : Operation) (result : Except Service.Error Unit × Deployment) :
    Prop :=
  (∃ t, result = (.ok (), t) ∧ s.Write o t) ∨
    ∃ e, result = (.error e, s) ∧ ∀ t, ¬ s.Write o t

theorem isBlankText_eq_false_iff {s : String} :
    isBlankText s = false ↔ ∃ c ∈ s.toList, Text.isBlank c = false := by
  rw [← Bool.not_eq_true, isBlankText, Text.isEmpty_trim_iff]
  simp

theorem isUptime_iff {x : Binary64} : isUptime x = true ↔
    x.isNaN = false ∧ 0 ≤ x.signedUnits ∧ x.signedUnits ≤ 100 * 2 ^ 1074 := by
  have hzero : Binary64.zero.isNaN = false ∧ Binary64.zero.signedUnits = 0 := by decide +kernel
  have hfull : (Binary64.ofRatio 100 1).isNaN = false ∧
      (Binary64.ofRatio 100 1).signedUnits = 100 * 2 ^ 1074 := by decide +kernel
  rw [isUptime, Binary64.le, Binary64.le, hzero.1, hzero.2, hfull.1, hfull.2]
  generalize (100 * 2 ^ 1074 : Int) = full
  cases x.isNaN <;> simp

section Report

variable {s : Deployment} {r : OperatorReport} {status : RelayStatus}

theorem acceptReport_of_checks (hid : isBlankText r.gateway = false)
    (hstatus : Named.ofName? r.status = some status) (huptime : isUptime r.uptime = true) :
    s.acceptReport r = match s.world.applyReport (statusUpdate r status) with
      | (.error e, w) =>
        (.error (.ofDirectory "gateway_status_store_failed" e), { s with world := w })
      | (.ok (), w) => (.ok (), { s with world := w.emit (.statusUpdated r.gateway status) }) := by
  simp only [acceptReport, hid, hstatus, huptime]
  rfl

theorem settles_of_checks (hid : isBlankText r.gateway = false)
    (hstatus : Named.ofName? r.status = some status) (huptime : isUptime r.uptime = true) :
    s.Settles (.acceptReport r) (s.acceptReport r) := by
  rw [acceptReport_of_checks hid hstatus huptime]
  cases hup : s.world.faults.applyReport with
  | some e =>
      refine .inr ⟨_, by simp only [World.applyReport, World.failing, hup]; rfl, ?_⟩
      rintro _ ⟨-, -, -, hnone⟩
      rw [hup] at hnone
      exact nomatch hnone
  | none =>
      by_cases hmem : r.gateway ∈ s.world.directory.ids
      · obtain ⟨front, row, rest, hrows, hrow, hok⟩ := Directory.applyReport_of_mem
          s.world.clock.seconds (r := statusUpdate r status) hmem
        have hname := (Named.ofName?_eq_some_iff RelayStatus.ofName?_name).1 hstatus
        refine .inl ⟨_, ?_, .report (isBlankText_eq_false_iff.1 hid) hname (isUptime_iff.1 huptime)
          hup hrows hrow⟩
        simp only [World.applyReport, World.failing, hup, hok]
        rfl
      · have herror := Directory.applyReport_of_not_mem
          s.world.clock.seconds (r := statusUpdate r status) hmem
        refine .inr ⟨_, by simp only [World.applyReport, World.failing, hup, herror]; rfl, ?_⟩
        rintro _ ⟨-, -, -, -, hrows, hrow⟩
        exact hmem (Directory.mem_ids hrows hrow)

theorem settles_acceptReport (s : Deployment) (r : OperatorReport) :
    s.Settles (.acceptReport r) (s.acceptReport r) := by
  -- The checks in their order; a write that is in order would have passed the first that fails.
  cases hid : isBlankText r.gateway with
  | true =>
      refine .inr ⟨_, by simp only [acceptReport, hid]; rfl, ?_⟩
      rintro _ ⟨hvisible⟩
      rw [← isBlankText_eq_false_iff, hid] at hvisible
      exact nomatch hvisible
  | false =>
      cases hstatus : (Named.ofName? r.status : Option RelayStatus) with
      | none =>
          refine .inr ⟨_, by simp only [acceptReport, hid, hstatus]; rfl, ?_⟩
          rintro _ ⟨-, hname⟩
          rw [hname, RelayStatus.ofName?_name] at hstatus
          exact nomatch hstatus
      | some status =>
          cases huptime : isUptime r.uptime with
          | false =>
              refine .inr ⟨_, by simp only [acceptReport, hid, hstatus, huptime]; rfl, ?_⟩
              rintro _ ⟨-, -, hpercent⟩
              rw [← isUptime_iff, huptime] at hpercent
              exact nomatch hpercent
          | true => exact settles_of_checks hid hstatus huptime

end Report

theorem settles_setLoad (s : Deployment) (id : String) (load : Binary64) :
    s.Settles (.setLoad id load) (s.setLoad id load) := by
  cases hup : s.world.faults.setLoad with
  | some e =>
      refine .inr ⟨_, by simp only [setLoad, World.setLoad, World.failing, hup]; rfl, ?_⟩
      rintro _ (_ | ⟨hnone⟩)
      rw [hup] at hnone
      cases hnone
  | none =>
      by_cases hmem : id ∈ s.world.directory.ids
      · obtain ⟨front, row, rest, hrows, hrow, hok⟩ := Directory.setLoad_of_mem
          s.world.clock.seconds (storedLoad load) hmem
        refine .inl ⟨_, ?_, .load hup hrows hrow⟩
        simp only [setLoad, World.setLoad, World.failing, hup, hok]
      · have herror := Directory.setLoad_of_not_mem
          s.world.clock.seconds (storedLoad load) hmem
        refine .inr ⟨_, by simp only [setLoad, World.setLoad, World.failing, hup, herror]; rfl, ?_⟩
        rintro _ (_ | ⟨-, hrows, hrow⟩)
        exact hmem (Directory.mem_ids hrows hrow)

theorem settles_logScan (s : Deployment) (r : ScanReport) :
    s.Settles (.logScan r) (s.logScan r) := by
  cases hchannel : (Named.ofName? r.channel : Option Channel) with
  | none =>
      refine .inr ⟨_, by simp only [logScan, hchannel]; rfl, ?_⟩
      rintro _ (_ | _ | ⟨hname⟩)
      rw [hname, Channel.ofName?_name] at hchannel
      exact nomatch hchannel
  | some channel =>
      cases hup : s.world.faults.discovery with
      | some detail =>
          refine .inr ⟨_, by simp only [logScan, hchannel, World.logScan, hup]; rfl, ?_⟩
          rintro _ (_ | _ | ⟨-, hnone⟩)
          rw [hup] at hnone
          exact nomatch hnone
      | none =>
          have hname := (Named.ofName?_eq_some_iff Channel.ofName?_name).1 hchannel
          refine .inl ⟨_, ?_, .scan hname hup⟩
          simp only [logScan, hchannel, World.logScan, hup]
          rfl

theorem step_write (s : Deployment) {o : Operation} (ho : o.isWrite = true) :
    (∃ t, s.step o = (.written (.ok ()), t) ∧ s.Write o t) ∨
      ∃ e, s.step o = (.written (.error e), s) ∧ ∀ t, ¬ s.Write o t := by
  have hstep : ∃ result, s.Settles o result ∧ s.step o = Prod.map .written id result := by
    cases o with
    | acceptReport r => exact ⟨_, s.settles_acceptReport r, rfl⟩
    | setLoad id load => exact ⟨_, s.settles_setLoad id load, rfl⟩
    | logScan r => exact ⟨_, s.settles_logScan r, rfl⟩
    | issuePack | attestClient | listing | challenge | upsert | advance | setFaults => exact nomatch ho
  obtain ⟨result, ⟨t, rfl, hwrite⟩ | ⟨e, rfl, hnone⟩, hstep⟩ := hstep
  · exact .inl ⟨t, hstep, hwrite⟩
  · exact .inr ⟨e, hstep, hnone⟩

end Deployment

end RelayGate
