import Mathlib.Data.List.Forall2
import RelayGate.Proofs.Service.Faults

namespace RelayGate

inductive Told (platform : String) : Except AttestFailure Verdict → Event → Prop
  | valid {v : Verdict} (h : v.isValid = true) :
      Told platform (.ok v) (.attestation platform .valid (v.reason.map Named.name))
  | invalid {v : Verdict} (h : v.isValid = false) :
      Told platform (.ok v) (.attestation platform .invalid (v.reason.map Named.name))
  | failed {e : AttestFailure} :
      Told platform (.error e) (.attestation platform .error (some e.code))

theorem told_attestationEvent (platform : String) (outcome : Except AttestFailure Verdict) :
    Told platform outcome (World.attestationEvent platform outcome) := by
  cases outcome with
  | error e => exact .failed
  | ok v =>
      cases hv : v.isValid with
      | true =>
          rw [World.attestationEvent, hv]
          exact .valid hv
      | false =>
          rw [World.attestationEvent, hv]
          exact .invalid hv

theorem Told.unique {platform : String} {outcome : Except AttestFailure Verdict} {e₁ e₂ : Event}
    (h₁ : Told platform outcome e₁) (h₂ : Told platform outcome e₂) : e₁ = e₂ := by
  cases h₁ with
  | valid hv =>
      cases h₂ with
      | valid => rfl
      | invalid hnot => exact nomatch hv.symm.trans hnot
  | invalid hnot =>
      cases h₂ with
      | valid hv => exact nomatch hv.symm.trans hnot
      | invalid => rfl
  | failed =>
      cases h₂
      rfl

def Operation.isSilent : Operation → Bool
  | .listing | .challenge _ | .setLoad _ _ | .upsert _ | .advance _ | .setFaults _ => true
  | .issuePack _ | .attestClient _ | .logScan _ | .acceptReport _ => false

namespace Deployment

inductive Heard (s : Deployment) (r : PackRequest) :
    Except AttestFailure (Option Verdict) → List Event → Prop
  | unattested (htoken : r.attestation = none ∨ r.attestation = some "") : Heard s r (.ok none) []
  | attested {token : String} {event : Event} (htoken : r.attestation = some token)
      (hne : token ≠ "") (h : Told r.platform (s.evaluate (input r token)).1 event) :
      Heard s r ((s.evaluate (input r token)).1.map some) [event]

/-- What an operation tells that has been answered. -/
inductive Tells (s : Deployment) : Operation → Answer → List Event → Prop
  | packRefused {r : PackRequest} {code : String} (h : ¬ r.Admissible) :
      Tells s (.issuePack r) (.pack (.error (.validation code))) []
  | packUnassessed {r : PackRequest} {e : AttestFailure} {front : List Event} (h : r.Admissible)
      (hheard : s.Heard r (.error e) front) :
      Tells s (.issuePack r) (.pack (.error (.verification e))) front
  | packFailed {r : PackRequest} {verdict : Option Verdict} {front : List Event} {detail : String}
      (h : r.Admissible) (hheard : s.Heard r (.ok verdict) front) :
      Tells s (.issuePack r) (.pack (.error (.infrastructure "config_generation_failed" detail)))
        front
  | packIssued {r : PackRequest} {verdict : Option Verdict} {front : List Event} {p : Pack}
      {region : String} (h : r.Admissible) (hheard : s.Heard r (.ok verdict) front)
      (hregion : p.metadata.get? "region" = some region) :
      Tells s (.issuePack r) (.pack (.ok p))
        (front ++ [.packGenerated region (needsDecoys verdict)])
  | attestRefused {r : AttestRequest} {code : String}
      (h : ∀ c ∈ r.device.toList, Text.isBlank c = true) :
      Tells s (.attestClient r) (.outcome (.error (.validation code))) []
  | attestFailed {r : AttestRequest} {e : AttestFailure} {event : Event}
      (h : ∃ c ∈ r.device.toList, Text.isBlank c = false)
      (he : (s.evaluate (attestInput r)).1 = .error e) (htold : Told r.platform (.error e) event) :
      Tells s (.attestClient r) (.outcome (.error (.verification e))) [event]
  | attestAnswered {r : AttestRequest} {v : Verdict} {event : Event}
      (h : ∃ c ∈ r.device.toList, Text.isBlank c = false)
      (hv : (s.evaluate (attestInput r)).1 = .ok v) (htold : Told r.platform (.ok v) event) :
      Tells s (.attestClient r) (.outcome (.ok (.ofVerdict v))) [event]
  | reported {r : OperatorReport} {status : RelayStatus} (hstatus : r.status = Named.name status) :
      Tells s (.acceptReport r) (.written (.ok ())) [.statusUpdated r.gateway status]
  | logged {r : ScanReport} {channel : Channel} (hchannel : r.channel = Named.name channel) :
      Tells s (.logScan r) (.written (.ok ())) [.discoveryLogged channel r.success]
  | unwritten {o : Operation} {e : Service.Error} (h : o.isWrite = true) :
      Tells s o (.written (.error e)) []
  | silent {o : Operation} {answer : Answer} (h : o.isSilent = true) : Tells s o answer []

variable {s : Deployment} {r : PackRequest}

theorem Heard.unique {x₁ x₂ : Except AttestFailure (Option Verdict)} {e₁ e₂ : List Event}
    (h₁ : s.Heard r x₁ e₁) (h₂ : s.Heard r x₂ e₂) : x₁ = x₂ ∧ e₁ = e₂ := by
  -- There is a token to evaluate, or there is none.
  have hexcl {token : String} (hnone : r.attestation = none ∨ r.attestation = some "")
      (htoken : r.attestation = some token) (hne : token ≠ "") : False := by
    rw [htoken] at hnone
    rcases hnone with h | h
    · exact nomatch h
    · exact hne (Option.some.inj h)
  cases h₁ with
  | unattested hnone =>
      cases h₂ with
      | unattested => exact ⟨rfl, rfl⟩
      | attested htoken hne => exact (hexcl hnone htoken hne).elim
  | @attested token event htoken hne h =>
      generalize hx : (s.evaluate (input r token)).1.map some = x at *
      cases h₂ with
      | unattested hnone => exact (hexcl hnone htoken hne).elim
      | attested htoken' hne' h' =>
          obtain rfl := Option.some.inj (htoken.symm.trans htoken')
          exact ⟨hx.symm, by rw [h.unique h']⟩

theorem Tells.unique {o : Operation} {answer : Answer} {e₁ e₂ : List Event}
    (h₁ : s.Tells o answer e₁) (h₂ : s.Tells o answer e₂) : e₁ = e₂ := by
  cases h₁ with
  | packRefused =>
      cases h₂ with
      | packRefused => rfl
      | silent h => exact nomatch h
  | packUnassessed h hheard =>
      cases h₂ with
      | packUnassessed h' hheard' => exact (hheard.unique hheard').2
      | silent h => exact nomatch h
  | packFailed h hheard =>
      cases h₂ with
      | packFailed h' hheard' => exact (hheard.unique hheard').2
      | silent h => exact nomatch h
  | packIssued h hheard hregion =>
      cases h₂ with
      | packIssued h' hheard' hregion' =>
          obtain ⟨hverdict, hfront⟩ := hheard.unique hheard'
          rw [Except.ok.inj hverdict, hfront, Option.some.inj (hregion.symm.trans hregion')]
      | silent h => exact nomatch h
  | attestRefused =>
      cases h₂ with
      | attestRefused => rfl
      | silent h => exact nomatch h
  | attestFailed h he htold =>
      cases h₂ with
      | attestFailed h' he' htold' => rw [htold.unique htold']
      | silent h => exact nomatch h
  | attestAnswered h hv htold =>
      generalize hf : Finding.ofVerdict _ = f at *
      cases h₂ with
      | attestAnswered h' hv' htold' =>
          rw [hv] at hv'
          obtain rfl := Except.ok.inj hv'
          rw [htold.unique htold']
      | silent h => exact nomatch h
  | reported hstatus =>
      cases h₂ with
      | reported hstatus' =>
          rw [Named.name_injective RelayStatus.ofName?_name (hstatus.symm.trans hstatus')]
      | silent h => exact nomatch h
  | logged hchannel =>
      cases h₂ with
      | logged hchannel' =>
          rw [Named.name_injective Channel.ofName?_name (hchannel.symm.trans hchannel')]
      | silent h => exact nomatch h
  | unwritten h =>
      cases h₂ <;> rfl
  | silent h =>
      cases h₂ <;> first | rfl | exact nomatch h

theorem events_evaluate (s : Deployment) (i : AttestInput) : (s.evaluate i).2.world.events =
    s.world.events ++ [World.attestationEvent i.platform (s.evaluate i).1] := by
  rw [evaluate_eq]

theorem Heard.of_failed {token : String} {e : AttestFailure} (htoken : r.attestation = some token)
    (hne : token ≠ "") (he : (s.evaluate (input r token)).1 = .error e) :
    s.Heard r (.error e) [World.attestationEvent r.platform (.error e)] := by
  have h := Heard.attested (s := s) htoken hne (told_attestationEvent _ _)
  rwa [he] at h

theorem Assessed.heard {verdict : Option Verdict} {t : Deployment} (h : s.Assessed r verdict t) :
    ∃ front, s.Heard r (.ok verdict) front ∧ t.world.events = s.world.events ++ front := by
  cases h with
  | unattested htoken => exact ⟨[], .unattested htoken, (List.append_nil _).symm⟩
  | @attested token v htoken hne hv =>
      have hheard := Heard.attested (s := s) htoken hne (told_attestationEvent _ _)
      have hevents := s.events_evaluate (input r token)
      rw [hv] at hheard hevents
      exact ⟨_, hheard, hevents⟩

theorem tells_issuePackAmid (s : Deployment) (a : Surroundings) (r : PackRequest) :
    ∃ events, s.Tells (.issuePack r) (.pack (s.issuePackAmid a r).1) events ∧
      (s.issuePackAmid a r).2.world.events = s.world.events ++ events := by
  have hcourse := s.course_issuePackAmid a r
  generalize s.issuePackAmid a r = result at hcourse
  cases hcourse with
  | refused h => exact ⟨[], .packRefused h, (List.append_nil _).symm⟩
  | @failed token e h htoken hne he =>
      refine ⟨_, .packUnassessed h (.of_failed htoken hne he), ?_⟩
      rw [events_evaluate, he]
      rfl
  | @served verdict t h hassessed =>
      obtain ⟨front, hheard, hfront⟩ := hassessed.heard
      rcases t.issueForAmid_cases a r verdict with ⟨p, region, hp, hregion, -⟩ | ⟨e, he, -⟩
      · rw [hp]
        refine ⟨_, .packIssued h hheard hregion, ?_⟩
        rw [← List.append_assoc, ← hfront]
        rfl
      · rw [he]
        exact ⟨front, .packFailed h hheard, hfront⟩

theorem tells_attestClient (s : Deployment) (r : AttestRequest) :
    ∃ events, s.Tells (.attestClient r) (.outcome (s.attestClient r).1) events ∧
      (s.attestClient r).2.world.events = s.world.events ++ events := by
  by_cases hvisible : ∃ c ∈ r.device.toList, Text.isBlank c = false
  · have hevents := s.events_evaluate (attestInput r)
    have htold := told_attestationEvent r.platform (s.evaluate (attestInput r)).1
    rw [attestClient_of_visible hvisible]
    cases ho : (s.evaluate (attestInput r)).1 with
    | error e =>
        rw [ho] at htold hevents
        exact ⟨_, .attestFailed hvisible ho htold, hevents⟩
    | ok v =>
        rw [ho] at htold hevents
        exact ⟨_, .attestAnswered hvisible ho htold, hevents⟩
  · have hblank : ∀ c ∈ r.device.toList, Text.isBlank c = true := by simpa using hvisible
    rw [attestClient_of_blank hblank]
    exact ⟨[], .attestRefused hblank, (List.append_nil _).symm⟩

theorem Write.tells {o : Operation} {t : Deployment} (h : s.Write o t) :
    ∃ events, s.Tells o (.written (.ok ())) events ∧ t.world.events = s.world.events ++ events := by
  cases h with
  | report hid hstatus => exact ⟨_, .reported hstatus, rfl⟩
  | load => exact ⟨[], .silent rfl, (List.append_nil _).symm⟩
  | scan hchannel => exact ⟨_, .logged hchannel, rfl⟩

theorem tells_write (s : Deployment) {o : Operation} (ho : o.isWrite = true) :
    ∃ events, s.Tells o (s.step o).1 events ∧
      (s.step o).2.world.events = s.world.events ++ events := by
  rcases s.step_write ho with ⟨t, h, hwrite⟩ | ⟨e, h, -⟩
  · rw [h]
    exact hwrite.tells
  · rw [h]
    exact ⟨[], .unwritten ho, (List.append_nil _).symm⟩

theorem tells_stepAmid (s : Deployment) (a : Surroundings) (o : Operation) :
    ∃ events, (s.amid a).Tells o (s.stepAmid a o).1 events ∧
      (s.stepAmid a o).2.world.events = (s.amid a).world.events ++ events := by
  cases o with
  | issuePack r =>
      simp only [stepAmid, Prod.map_fst, Prod.map_snd, id_eq]
      exact (s.amid a).tells_issuePackAmid a r
  | attestClient r =>
      simp only [stepAmid, step, Prod.map_fst, Prod.map_snd, id_eq]
      exact (s.amid a).tells_attestClient r
  | acceptReport | setLoad | logScan =>
      simp only [stepAmid]
      exact (s.amid a).tells_write rfl
  | listing | challenge | upsert | advance | setFaults =>
      exact ⟨[], .silent rfl, (List.append_nil _).symm⟩

theorem segments_rounds (s : Deployment) (os : List (Surroundings × Operation)) : ∃ segments,
    List.Forall₂ (fun (t : Round) events => t.scene.Tells t.operation t.answer events)
      (s.rounds os) segments ∧
    (s.runAmid os).world.events = s.world.events ++ segments.flatten := by
  induction os generalizing s with
  | nil => exact ⟨[], .nil, (List.append_nil _).symm⟩
  | cons ao os ih =>
      obtain ⟨a, o⟩ := ao
      obtain ⟨events, htells, hfirst⟩ := s.tells_stepAmid a o
      obtain ⟨segments, hsegments, hrest⟩ := ih (s.stepAmid a o).2
      refine ⟨events :: segments, .cons htells hsegments, ?_⟩
      rw [runAmid, hrest, hfirst, List.flatten_cons, List.append_assoc]
      rfl

/-- In every run, however the surroundings behave, the events are those that the operations tell of,
in their order, and there is one way only to divide them among the operations. A run in which nothing
but the operations happens is among these runs. -/
theorem events_told (s : Deployment) :
    (∀ os, ∃! segments,
      List.Forall₂ (fun (t : Round) events => t.scene.Tells t.operation t.answer events)
        (s.rounds os) segments ∧
      (s.runAmid os).world.events = s.world.events ++ segments.flatten) ∧
    ∀ os, s.run os = ((s.rounds (os.map fun o => (.still, o))).map Round.answer,
      s.runAmid (os.map fun o => (.still, o))) := by
  refine ⟨fun os => ?_, s.run_eq_runAmid_still⟩
  obtain ⟨segments, hsegments, hevents⟩ := s.segments_rounds os
  refine ⟨segments, ⟨hsegments, hevents⟩, ?_⟩
  rintro others ⟨hothers, -⟩
  exact List.right_unique_forall₂' (fun _ _ _ h₁ h₂ => h₁.unique h₂) hothers hsegments

end Deployment

end RelayGate
