import RelayGate.Proofs.Relay.Listing
import RelayGate.Proofs.Service.Effects

namespace RelayGate

namespace Operation

/-- The call that the operation makes to the directory at a time and with some calls failing: none for
a report that is not in order. -/
def call? (now : Clock) (f : Faults) : Operation → Option Directory.Call
  | upsert e => some (.upsert e)
  | acceptReport r =>
    if Deployment.isBlankText r.gateway || !Deployment.isUptime r.uptime || f.applyReport.isSome then
      none
    else
      (Named.ofName? r.status).map fun status =>
        .report now.seconds (Deployment.statusUpdate r status)
  | setLoad id load => if f.setLoad.isSome then none else some (.load now.seconds id (storedLoad load))
  | _ => none

def clockAfter (now : Clock) : Operation → Clock
  | advance millis => now.advance millis
  | _ => now

def faultsAfter (f : Faults) : Operation → Faults
  | setFaults g => g
  | _ => f

theorem upserted?_of_call? {now : Clock} {f : Faults} {o : Operation} {c : Directory.Call}
    (ho : ∀ e, o ≠ .upsert e) (h : o.call? now f = some c) : c.upserted? = none := by
  cases o with
  | upsert e => exact absurd rfl (ho e)
  | acceptReport r =>
      rw [call?] at h
      obtain ⟨-, h⟩ := Option.ite_none_left_eq_some.1 h
      obtain ⟨status, -, rfl⟩ := Option.map_eq_some_iff.1 h
      rfl
  | setLoad id load =>
      obtain ⟨-, h⟩ := Option.ite_none_left_eq_some.1 h
      obtain rfl := Option.some.inj h
      rfl
  | issuePack | attestClient | logScan | listing | challenge | advance | setFaults => exact nomatch h

end Operation

namespace Directory

def performed (d : Directory) (c : Option Call) : Directory :=
  match c with
  | some c => (d.perform c).2
  | none => d

variable {d : Directory}

theorem nodup_performed (h : d.ids.Nodup) (c : Option Call) : (d.performed c).ids.Nodup := by
  cases c with
  | none => exact h
  | some c => exact nodup_perform h c

theorem fronts_performed_congr {d' : Directory} (h : d.ids.Nodup) (h' : d'.ids.Nodup)
    (hfronts : d.fronts = d'.fronts) {c : Option Call} (hc : ∀ a ∈ c, a.upserted? = none) :
    (d.performed c).fronts = (d'.performed c).fronts := by
  cases c with
  | none => exact hfronts
  | some c =>
      have hnone := hc c rfl
      exact (fronts_perform h hnone).trans (hfronts ▸ (fronts_perform h' hnone).symm)

end Directory

namespace World

theorem world_applyReport (w : World) (r : RelayReport) : (w.applyReport r).2 = { w with
    directory := w.directory.performed
      (if w.faults.applyReport.isSome then none else some (.report w.clock.seconds r)) } := by
  cases hup : w.faults.applyReport with
  | some e => simp only [applyReport, failing, hup]; rfl
  | none =>
      cases hd : w.directory.applyReport w.clock.seconds r <;>
        simp [applyReport, failing, hup, hd, Directory.performed, Directory.perform]

theorem world_setLoad (w : World) (id : String) (load : Binary64) : (w.setLoad id load).2 = { w with
    directory := w.directory.performed
      (if w.faults.setLoad.isSome then none else some (.load w.clock.seconds id load)) } := by
  cases hup : w.faults.setLoad with
  | some e => simp only [setLoad, failing, hup]; rfl
  | none =>
      cases hd : w.directory.setLoad w.clock.seconds id load <;>
        simp [setLoad, failing, hup, hd, Directory.performed, Directory.perform]

end World

namespace Deployment

variable {s t : Deployment}

structure Moves (s : Deployment) (o : Operation) (w : World) : Prop where
  directory : w.directory = s.world.directory.performed (o.call? s.world.clock s.world.faults)
  clock : w.clock = o.clockAfter s.world.clock
  faults : w.faults = o.faultsAfter s.world.faults

theorem Moves.emit {o : Operation} {w : World} (h : s.Moves o w) (e : Event) : s.Moves o (w.emit e) :=
  ⟨h.directory, h.clock, h.faults⟩

theorem Serves.moves {o : Operation} {w : World} (h : s.Serves w)
    (hcall : o.call? s.world.clock s.world.faults = none)
    (hclock : o.clockAfter s.world.clock = s.world.clock)
    (hfaults : o.faultsAfter s.world.faults = s.world.faults) : s.Moves o w := by
  obtain ⟨_, _, _, rfl⟩ := h
  exact ⟨by rw [hcall]; rfl, hclock.symm, hfaults.symm⟩

theorem moves_acceptReport (s : Deployment) (r : OperatorReport) :
    s.Moves (.acceptReport r) (s.acceptReport r).2.world := by
  have refused (hsame : (s.acceptReport r).2 = s)
      (hcall : (Operation.acceptReport r).call? s.world.clock s.world.faults = none) :
      s.Moves (.acceptReport r) (s.acceptReport r).2.world := by
    rw [hsame]
    exact s.serves_self.moves hcall rfl rfl
  cases hid : isBlankText r.gateway with
  | true =>
      exact refused (by simp only [acceptReport, hid]; rfl) (by simp [Operation.call?, hid])
  | false =>
      cases hstatus : (Named.ofName? r.status : Option RelayStatus) with
      | none =>
          exact refused (by simp only [acceptReport, hid, hstatus]; rfl)
            (by simp [Operation.call?, hstatus])
      | some status =>
          cases huptime : isUptime r.uptime with
          | false =>
              exact refused (by simp only [acceptReport, hid, hstatus, huptime]; rfl)
                (by simp [Operation.call?, huptime])
          | true =>
              have hcall : (Operation.acceptReport r).call? s.world.clock s.world.faults =
                  if s.world.faults.applyReport.isSome then none
                  else some (.report s.world.clock.seconds (statusUpdate r status)) := by
                simp [Operation.call?, hid, hstatus, huptime]
              have hmoves : s.Moves (.acceptReport r)
                  (s.world.applyReport (statusUpdate r status)).2 := by
                rw [World.world_applyReport]
                exact ⟨by rw [hcall], rfl, rfl⟩
              rw [acceptReport_of_checks hid hstatus huptime]
              revert hmoves
              rcases s.world.applyReport (statusUpdate r status) with ⟨e | u, w⟩
              · exact id
              · exact fun h => h.emit _

theorem moves_setLoad (s : Deployment) (id : String) (load : Binary64) :
    s.Moves (.setLoad id load) (s.setLoad id load).2.world := by
  have hmoves : s.Moves (.setLoad id load) (s.world.setLoad id (storedLoad load)).2 := by
    rw [World.world_setLoad]
    exact ⟨rfl, rfl, rfl⟩
  rw [setLoad]
  revert hmoves
  rcases s.world.setLoad id (storedLoad load) with ⟨e | u, w⟩ <;> exact fun h => h

theorem moves_logScan (s : Deployment) (r : ScanReport) :
    s.Moves (.logScan r) (s.logScan r).2.world := by
  rcases s.settles_logScan r with ⟨t, h, hwrite⟩ | ⟨e, h, -⟩
  · rw [h]
    cases hwrite
    exact ⟨rfl, rfl, rfl⟩
  · rw [h]
    exact s.serves_self.moves rfl rfl rfl

theorem moves_step (s : Deployment) (o : Operation) : s.Moves o (s.step o).2.world := by
  cases o with
  | issuePack r =>
      refine Serves.moves ?_ rfl rfl rfl
      simpa only [step, Prod.map_snd, id_eq] using s.serves_issuePack r
  | attestClient r =>
      refine Serves.moves ?_ rfl rfl rfl
      simpa only [step, Prod.map_snd, id_eq] using s.serves_attestClient r
  | logScan r => simpa only [step, Prod.map_snd, id_eq] using s.moves_logScan r
  | acceptReport r => simpa only [step, Prod.map_snd, id_eq] using s.moves_acceptReport r
  | setLoad id load => simpa only [step, Prod.map_snd, id_eq] using s.moves_setLoad id load
  | listing | challenge => exact s.serves_self.moves rfl rfl rfl
  | upsert | advance | setFaults => exact ⟨rfl, rfl, rfl⟩

/-- The listing is, and will be, the same of both, as long as no endpoint is put into a directory. -/
structure SameFront (s t : Deployment) : Prop where
  distinct : s.world.directory.ids.Nodup
  distinct' : t.world.directory.ids.Nodup
  fronts : s.world.directory.fronts = t.world.directory.fronts
  clock : s.world.clock = t.world.clock
  faults : s.world.faults = t.world.faults

theorem SameFront.step (h : SameFront s t) {o : Operation} (ho : ∀ e, o ≠ .upsert e) :
    SameFront (s.step o).2 (t.step o).2 := by
  have hs := s.moves_step o
  have ht := t.moves_step o
  have hcall : o.call? t.world.clock t.world.faults = o.call? s.world.clock s.world.faults := by
    rw [h.clock, h.faults]
  exact {
    distinct := by
      rw [hs.directory]
      exact Directory.nodup_performed h.distinct _
    distinct' := by
      rw [ht.directory]
      exact Directory.nodup_performed h.distinct' _
    fronts := by
      rw [hs.directory, ht.directory, hcall]
      exact Directory.fronts_performed_congr h.distinct h.distinct' h.fronts
        fun c hc => Operation.upserted?_of_call? ho hc
    clock := by rw [hs.clock, ht.clock, h.clock]
    faults := by rw [hs.faults, ht.faults, h.faults] }

theorem SameFront.run (h : SameFront s t) {os : List Operation} (hos : ∀ e, .upsert e ∉ os) :
    SameFront (s.run os).2 (t.run os).2 := by
  induction os generalizing s t with
  | nil => exact h
  | cons o os ih =>
      have ho : ∀ e, o ≠ .upsert e := by
        rintro e rfl
        exact hos e List.mem_cons_self
      exact ih (h.step ho) fun e he => hos e (List.mem_cons_of_mem o he)

theorem listing_of_listed (h : s.world.faults.listed = none) :
    s.listing = .ok (s.world.directory.listed.map Endpoint.listingEntry) := by
  simp only [listing, World.lookup, World.failing, h]
  rfl

theorem SameFront.listing_eq (h : SameFront s t) : s.listing = t.listing := by
  cases hfault : s.world.faults.listed with
  | some e =>
      have hfault' : t.world.faults.listed = some e := by rw [← h.faults, hfault]
      simp only [listing, World.lookup, World.failing, hfault, hfault']
  | none =>
      have hfault' : t.world.faults.listed = none := by rw [← h.faults, hfault]
      rw [listing_of_listed hfault, listing_of_listed hfault', Directory.map_listed,
        Directory.map_listed, h.fronts]

/-- Whatever has been called in the past of two deployments: if their real relays look the same to the
public, they have the same listing after any operations that put no endpoint into a directory, though
the rows may be different in all else, and so may the answers. The listing is an entry for each active
or degraded real relay in the order of the rows, and no entry has the id of a decoy. -/
theorem listing_public {past past' : List Directory.Call}
    (hs : s.world.directory = Directory.empty.run past)
    (ht : t.world.directory = Directory.empty.run past')
    (hreals : List.Forall₂ Endpoint.SameFront
      (s.world.directory.rows.filter fun e => !e.isDecoy)
      (t.world.directory.rows.filter fun e => !e.isDecoy))
    (hclock : s.world.clock = t.world.clock) (hfaults : s.world.faults = t.world.faults)
    {os : List Operation} (hos : ∀ e, .upsert e ∉ os) :
    (s.run os).2.listing = (t.run os).2.listing ∧
    ((s.run os).2.world.faults.listed = none →
      ∃ entries, (s.run os).2.listing = .ok entries ∧
        entries = (((s.run os).2.world.directory.rows.filter fun e =>
          (e.status = .active ∨ e.status = .degraded) ∧ e.isDecoy = false).map
            Endpoint.listingEntry) ∧
        ∀ x ∈ entries, ∀ e ∈ (s.run os).2.world.directory.rows, e.isDecoy = true → x.id ≠ e.id) := by
  have hsame : SameFront s t := {
    distinct := by
      rw [hs]
      exact Directory.nodup_run (d := Directory.empty) List.nodup_nil past
    distinct' := by
      rw [ht]
      exact Directory.nodup_run (d := Directory.empty) List.nodup_nil past'
    fronts := Directory.fronts_eq_iff.2 hreals
    clock := hclock
    faults := hfaults }
  have hafter := hsame.run hos
  refine ⟨hafter.listing_eq, ?_⟩
  intro hup
  refine ⟨_, listing_of_listed hup, ?_, ?_⟩
  · rw [Directory.listed_eq]
  · intro x hx e he hdecoy
    exact Directory.id_ne_of_mem_listed hafter.distinct hx he hdecoy

end Deployment

namespace Fleet

def disguised (e : Endpoint) : Endpoint :=
  { e with
    publicKey := []
    address := "198.51.100.7"
    port := 8443
    transports := []
    channels := ["satellite"] }

def disguisedRelays : List Endpoint :=
  [relay "decoy-2" "ap-east-1" 3 true, disguised (relay "relay-busy" "us-east-1" 70 false),
    disguised (relay "relay-idle" "us-east-1" 5 false),
    disguised (relay "relay-eu" "eu-west-1" 30 false)]

def plain (relays : List Endpoint) : Deployment :=
  ⟨⟨⟨[]⟩, .new ⟨[], true⟩ .replace⟩, relays.foldl .upsert (.atClock clock)⟩

def strayReport : OperatorReport := ⟨"decoy-1", "degraded", 9, 0, 0, .one⟩

def reports : List Operation :=
  [.acceptReport strayReport, .advance 5000, .setLoad "relay-idle" .one,
    .acceptReport ⟨"relay-busy", "offline", 0, 0, 0, .one⟩,
    .acceptReport ⟨"relay-eu", "degraded", 31, 0, 0, .one⟩]

end Fleet

theorem Deployment.listing_public_disguised :
    ((Fleet.plain Fleet.relays).acceptReport Fleet.strayReport).1 = .ok () ∧
    ((Fleet.plain Fleet.disguisedRelays).acceptReport Fleet.strayReport).1 =
      .error (.notFound "gateway_not_found") ∧
    ((Fleet.plain Fleet.relays).run Fleet.reports).2.listing =
      ((Fleet.plain Fleet.disguisedRelays).run Fleet.reports).2.listing ∧
    ((Fleet.plain Fleet.relays).run Fleet.reports).2.listing =
      .ok [⟨"relay-idle", "OP-relay-id", "us-east-1", .active, 100, some 100, some 1760000005⟩,
        ⟨"relay-eu", "OP-relay-eu", "eu-west-1", .degraded, 31, some 100, some 1760000005⟩] := by
  have hnone : ∀ e, .upsert e ∉ Fleet.reports := by simp [Fleet.reports]
  have hreals : List.Forall₂ Endpoint.SameFront
      ((Fleet.plain Fleet.relays).world.directory.rows.filter fun e => !e.isDecoy)
      ((Fleet.plain Fleet.disguisedRelays).world.directory.rows.filter fun e => !e.isDecoy) := by
    apply Directory.fronts_eq_iff.1
    decide +kernel
  have hup : ((Fleet.plain Fleet.relays).run Fleet.reports).2.world.faults.listed = none := by
    decide +kernel
  have hs : (Fleet.plain Fleet.relays).world.directory =
      Directory.empty.run (Fleet.relays.map .upsert) := rfl
  have ht : (Fleet.plain Fleet.disguisedRelays).world.directory =
      Directory.empty.run (Fleet.disguisedRelays.map .upsert) := rfl
  obtain ⟨hsame, hentries⟩ := listing_public hs ht hreals rfl rfl hnone
  obtain ⟨entries, hlisting, hrows, -⟩ := hentries hup
  refine ⟨by decide +kernel, by decide +kernel, hsame, ?_⟩
  rw [hlisting, hrows]
  decide +kernel

end RelayGate
