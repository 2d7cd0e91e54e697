import Mathlib.Data.List.Forall2
import RelayGate.Proofs.Service.AuditTrail
import RelayGate.Proofs.Service.Wording

namespace RelayGate

namespace Moment

def terse (m : Moment) : Moment := ⟨m.connector.terse, m.decode.terse, m.validator.terse⟩

theorem verifier_terse (m : Moment) (v : Verifier) : (m.verifier v).terse = m.terse.verifier v.terse := by
  obtain ⟨policy, _ | connector, credentials, _ | _ | backend⟩ | ⟨policy, _ | validator⟩ := v <;> rfl

theorem service_terse (m : Moment) (s : Service) : (m.service s).terse = m.terse.service s.terse := by
  simp only [service, Service.terse, Evaluator.terse, List.map_map, Function.comp_def, verifier_terse]

end Moment

/-- The surroundings differ in wording at most, and may go by anything but wording. -/
structure Surroundings.Alike (a b : Surroundings) : Prop where
  services : a.services.map Moment.terse = b.services.map Moment.terse
  directory : a.directory = b.directory
  audit {f g : Option String} (h : f.isSome = g.isSome) : (a.audit f).isSome = (b.audit g).isSome
  probes {l m : Lookup} (h : l.terse = m.terse) (n : Nat) : (a.probes l n).terse = (b.probes m n).terse
  source {l m : Lookup} (h : l.terse = m.terse) : (a.source l).terse = (b.source m).terse
  later : a.later = b.later

theorem Surroundings.alike_still : Surroundings.still.Alike .still where
  services := rfl
  directory := rfl
  audit h := h
  probes h _ := h
  source h := h
  later := rfl

theorem Option.map_const_of_isSome_eq {o p : Option String} (h : o.isSome = p.isSome) :
    (o.map fun _ => "") = p.map fun _ => "" := by
  cases o <;> cases p
  · rfl
  · exact absurd h Bool.false_ne_true
  · exact absurd h.symm Bool.false_ne_true
  · rfl

/-- The operations are the same, but for the words in which calls are to fail. -/
inductive Operation.Alike : Operation → Operation → Prop
  | same (o : Operation) : Alike o o
  | setFaults {f g : Faults} (h : f.terse = g.terse) : Alike (.setFaults f) (.setFaults g)

namespace Deployment

variable {s t : Deployment} {a b : Surroundings}

theorem lookup_alike (h : s.terse = t.terse) : s.world.lookup.terse = t.world.lookup.terse := by
  rw [← World.lookup_terse, ← World.lookup_terse]
  exact congrArg (fun s => s.world.lookup) h

theorem service_amid_alike (h : s.terse = t.terse) (hab : a.Alike b) :
    (s.amid a).service.terse = (t.amid b).service.terse := by
  have hservice : s.service.terse = t.service.terse := congrArg Deployment.service h
  have hmoment := hab.services
  simp only [amid]
  cases ha : a.services with
  | none =>
      rw [ha, Option.map_none, eq_comm, Option.map_eq_none_iff] at hmoment
      rw [hmoment]
      exact hservice
  | some m =>
      rw [ha, Option.map_some, eq_comm, Option.map_eq_some_iff] at hmoment
      obtain ⟨n, hn, hsame⟩ := hmoment
      rw [hn]
      dsimp only
      rw [m.service_terse, n.service_terse, hsame, hservice]

theorem world_amid_alike (h : s.terse = t.terse) (hab : a.Alike b) :
    (s.amid a).world.terse = (t.amid b).world.terse := by
  have hworld : s.world.terse = t.world.terse := congrArg Deployment.world h
  have hbefore : s.world.faults.audit.isSome = t.world.faults.audit.isSome := by
    have hsome := congrArg (fun w => w.faults.audit.isSome) hworld
    simpa only [World.terse, Faults.terse, Option.isSome_map] using hsome
  -- The reason why records cannot be written may differ, but not whether they can be.
  have haudit : (a.audit s.world.faults.audit).map (fun _ => "") =
      (b.audit t.world.faults.audit).map fun _ => "" :=
    Option.map_const_of_isSome_eq (hab.audit hbefore)
  have hself (s : Deployment) (a : Surroundings) : (s.amid a).world.terse =
      { s.world.terse with
        directory := a.directory s.world.terse.directory
        faults := { s.world.terse.faults with
          audit := (a.audit s.world.faults.audit).map fun _ => "" } } := rfl
  rw [hself, hself, hworld, hab.directory, haudit]

theorem amid_alike (h : s.terse = t.terse) (hab : a.Alike b) : (s.amid a).terse = (t.amid b).terse := by
  rw [terse, terse, service_amid_alike h hab, world_amid_alike h hab]

theorem alike_issueForAmid (h : s.terse = t.terse) (hab : a.Alike b) (r : PackRequest)
    (verdict : Option Verdict) :
    Alike (s.issueForAmid a r verdict) (t.issueForAmid b r verdict) := by
  have hissuer : s.service.issuer = t.service.issuer := congrArg (fun s => s.service.issuer) h
  have hclock : s.world.clock = t.world.clock := congrArg (fun s => s.world.clock) h
  have hissue := t.service.issuer.issueAmid_congr (hab.probes (lookup_alike h))
    (hab.source (lookup_alike h)) (b.later t.world.clock) r.device (regionHint r) r.preferred verdict
  rw [issueForAmid, issueForAmid, hissuer, hclock, hab.later]
  generalize t.service.issuer.issueAmid (a.probes s.world.lookup) _ _ _ _ _ _ = x at hissue
  generalize t.service.issuer.issueAmid (b.probes t.world.lookup) _ _ _ _ _ _ = y at hissue
  cases x with
  | error e =>
      cases y with
      | error f => exact ⟨rfl, h⟩
      | ok q => cases hissue
  | ok p =>
      cases y with
      | error f => cases hissue
      | ok q =>
          obtain rfl := Except.ok.inj hissue
          exact ⟨rfl, congrArg (fun s => { s with
            world := s.world.emit (.packGenerated p.1 (needsDecoys verdict)) }) h⟩

theorem alike_issuePackAmid (h : s.terse = t.terse) (hab : a.Alike b) (r : PackRequest) :
    Alike (s.issuePackAmid a r) (t.issuePackAmid b r) := by
  have hassess : Prod.map (Except.mapError AttestFailure.terse) terse (s.assess r) =
      Prod.map (Except.mapError AttestFailure.terse) terse (t.assess r) := by
    rw [← assess_terse, h, assess_terse]
  unfold issuePackAmid
  by_cases hdevice : isBlankText r.device
  · rw [if_pos hdevice, if_pos hdevice]
    exact ⟨rfl, h⟩
  · by_cases hplatform : (Named.ofName? r.platform : Option Platform).isNone
    · rw [if_neg hdevice, if_neg hdevice, if_pos hplatform, if_pos hplatform]
      exact ⟨rfl, h⟩
    · rw [if_neg hdevice, if_neg hdevice, if_neg hplatform, if_neg hplatform]
      generalize s.assess r = x at hassess
      generalize t.assess r = y at hassess
      obtain ⟨e | v, s⟩ := x <;> obtain ⟨f | w, t⟩ := y <;>
        obtain ⟨hresult, hafter⟩ := Prod.mk.inj hassess
      · exact ⟨rfl, hafter⟩
      · exact nomatch hresult
      · exact nomatch hresult
      · obtain rfl := Except.ok.inj hresult
        exact alike_issueForAmid hafter hab r v

theorem sameSeen_listing {l m : Lookup} (h : l.terse = m.terse) : SameSeen (listingOf l) (listingOf m) := by
  have hlisted : l.listed.mapError Directory.Error.terse = m.listed.mapError Directory.Error.terse :=
    congrArg Lookup.listed h
  rw [SameSeen, listingOf, listingOf]
  generalize l.listed = x at hlisted
  generalize m.listed = y at hlisted
  cases x <;> cases y
  · rfl
  · exact nomatch hlisted
  · exact nomatch hlisted
  · rw [Except.ok.inj hlisted]

end Deployment

inductive Answer.SeenAlike : Answer → Answer → Prop
  | pack {x y : Except Service.Error Pack} (h : SameSeen x y) : SeenAlike (.pack x) (.pack y)
  | outcome {x y : Except Service.Error Finding} (h : SameSeen x y) :
      SeenAlike (.outcome x) (.outcome y)
  | written {x y : Except Service.Error Unit} (h : SameSeen x y) :
      SeenAlike (.written x) (.written y)
  | listing {x y : Except Service.Error (List ListingEntry)} (h : SameSeen x y) :
      SeenAlike (.listing x) (.listing y)
  | challenge (text : String) : SeenAlike (.challenge text) (.challenge text)

structure World.SeenAlike (w v : World) : Prop where
  directory : w.directory = v.directory
  events : w.events = v.events
  audit : w.audit = v.audit
  scans : w.scans = v.scans

structure Round.SeenAlike (x y : Round) : Prop where
  answer : x.answer.SeenAlike y.answer
  world : x.after.world.SeenAlike y.after.world

namespace Deployment

variable {s t : Deployment} {a b : Surroundings} {o p : Operation}

theorem world_seenAlike (h : s.terse = t.terse) : s.world.SeenAlike t.world where
  directory := congrArg (fun s => s.world.directory) h
  events := congrArg (fun s => s.world.events) h
  audit := congrArg (fun s => s.world.audit) h
  scans := congrArg (fun s => s.world.scans) h

theorem fail_alike (h : s.terse = t.terse) {f g : Faults} (hfg : f.terse = g.terse) :
    ({ s with world := { s.world with faults := f } } : Deployment).terse =
      ({ t with world := { t.world with faults := g } } : Deployment).terse := by
  simp only [terse, World.terse, hfg]
  exact congrArg (fun s => { s with world := { s.world with faults := g.terse } }) h

structure StepAlike (x y : Answer × Deployment) : Prop where
  answer : x.1.SeenAlike y.1
  after : x.2.terse = y.2.terse

theorem Alike.map {α : Type} {x y : Except Service.Error α × Deployment} (h : Alike x y)
    {f : Except Service.Error α → Answer}
    (hf : ∀ {r₁ r₂ : Except Service.Error α}, SameSeen r₁ r₂ → (f r₁).SeenAlike (f r₂)) :
    StepAlike (Prod.map f id x) (Prod.map f id y) :=
  ⟨hf h.result, h.after⟩

theorem stepAmid_alike (h : s.terse = t.terse) (hab : a.Alike b) (hop : o.Alike p) :
    StepAlike (s.stepAmid a o) (t.stepAmid b p) := by
  have hscene := amid_alike h hab
  cases hop with
  | setFaults hfaults => exact ⟨.written rfl, fail_alike hscene hfaults⟩
  | same o =>
      cases o with
      | issuePack r => exact (alike_issuePackAmid hscene hab r).map .pack
      | attestClient r => exact ((wordingFree_attestClient r).alike hscene).map .outcome
      | logScan r => exact ((wordingFree_logScan r).alike hscene).map .written
      | listing => exact ⟨.listing (sameSeen_listing (hab.source (lookup_alike hscene))), hscene⟩
      | challenge entropy => exact ⟨.challenge _, hscene⟩
      | acceptReport r => exact ((wordingFree_acceptReport r).alike hscene).map .written
      | setLoad id load => exact ((wordingFree_setLoad id load).alike hscene).map .written
      | upsert e =>
          exact ⟨.written rfl, congrArg (fun s => { s with world := s.world.upsert e }) hscene⟩
      | advance millis =>
          exact ⟨.written rfl, congrArg (fun s => { s with world := s.world.advance millis }) hscene⟩
      | setFaults f => exact ⟨.written rfl, fail_alike hscene rfl⟩

variable {os ps : List (Surroundings × Operation)}

theorem rounds_alike (h : s.terse = t.terse)
    (hop : List.Forall₂ (fun x y => x.1.Alike y.1 ∧ x.2.Alike y.2) os ps) :
    List.Forall₂ Round.SeenAlike (s.rounds os) (t.rounds ps) := by
  induction hop generalizing s t with
  | nil => exact .nil
  | @cons x y os ps hxy _ ih =>
      have hstep := stepAmid_alike h hxy.1 hxy.2
      exact .cons ⟨hstep.answer, world_seenAlike hstep.after⟩ (ih hstep.after)

theorem runAmid_alike (h : s.terse = t.terse)
    (hop : List.Forall₂ (fun x y => x.1.Alike y.1 ∧ x.2.Alike y.2) os ps) :
    (s.runAmid os).terse = (t.runAmid ps).terse := by
  induction hop generalizing s t with
  | nil => exact h
  | @cons x y os ps hxy _ ih => exact ih (stepAmid_alike h hxy.1 hxy.2).after

/-- Let two deployments differ in the words of errors at most. If the same is then done to both, and
all that they work with does the same but for such words, operation by operation the answers are the
same values, or errors of one kind with one code, and the directory, the events and the records are
the same. -/
theorem wording_concealed (h : s.terse = t.terse) :
    (∀ os ps, List.Forall₂ (fun x y => x.1.Alike y.1 ∧ x.2.Alike y.2) os ps →
      List.Forall₂ Round.SeenAlike (s.rounds os) (t.rounds ps)) ∧
    ∀ os ps, List.Forall₂ Operation.Alike os ps →
      List.Forall₂ Answer.SeenAlike (s.run os).1 (t.run ps).1 ∧
        (s.run os).2.world.SeenAlike (t.run ps).2.world := by
  refine ⟨fun _ _ => rounds_alike h, fun os ps hop => ?_⟩
  have hstill : List.Forall₂ (fun x y => x.1.Alike y.1 ∧ x.2.Alike y.2)
      (os.map fun o => (Surroundings.still, o)) (ps.map fun p => (Surroundings.still, p)) := by
    rw [List.forall₂_map_left_iff, List.forall₂_map_right_iff]
    exact hop.imp fun o p halike => ⟨Surroundings.alike_still, halike⟩
  rw [run_eq_runAmid_still, run_eq_runAmid_still, List.forall₂_map_left_iff,
    List.forall₂_map_right_iff]
  exact ⟨(rounds_alike h hstill).imp fun _ _ => Round.SeenAlike.answer,
    world_seenAlike (runAmid_alike h hstill)⟩

end Deployment

namespace Fleet

def saying (detail : String) : Deployment where
  service :=
    ⟨⟨[.play (.new settings.play (some fun _ => .ok fun _ _ => ⟨⟨0⟩, .error (.backend detail)⟩) none),
      .appAttest ⟨.standard, none⟩]⟩, .new ⟨[], true⟩ .replace⟩
  world := { World.atClock clock with faults := {
    realIn := fun _ => some (.unavailable detail)
    decoysIn := fun _ => some (.unavailable detail)
    listed := some (.unavailable detail)
    applyReport := some (.unavailable detail)
    setLoad := some (.unavailable detail)
    audit := some detail
    discovery := some detail } }

def attempts : List Operation := [.attestClient inquiry, .issuePack unattested, .listing]

end Fleet

theorem Deployment.wording_concealed_fleet :
    ((Fleet.saying "10.0.0.4").run Fleet.attempts).1 =
        [.outcome (.error (.verification (.backend "10.0.0.4"))),
          .pack (.error (.infrastructure "config_generation_failed" "directory unavailable: 10.0.0.4")),
          .listing (.error (.infrastructure "endpoint_listing_failed" "directory unavailable: 10.0.0.4"))] ∧
      List.Forall₂ Answer.SeenAlike ((Fleet.saying "10.0.0.4").run Fleet.attempts).1
        ((Fleet.saying "timed out").run Fleet.attempts).1 ∧
      ((Fleet.saying "10.0.0.4").run Fleet.attempts).2.world.events =
        ((Fleet.saying "timed out").run Fleet.attempts).2.world.events := by
  have hterse : (Fleet.saying "10.0.0.4").terse = (Fleet.saying "timed out").terse := rfl
  have hsame : List.Forall₂ Operation.Alike Fleet.attempts Fleet.attempts :=
    List.forall₂_same.2 fun o _ => .same o
  obtain ⟨hanswers, hworld⟩ := (Deployment.wording_concealed hterse).2 _ _ hsame
  exact ⟨by rfl, hanswers, hworld.events⟩

end RelayGate
