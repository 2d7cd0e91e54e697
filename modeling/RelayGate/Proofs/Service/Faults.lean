import RelayGate.Proofs.Service.Disclosure
import RelayGate.Proofs.Service.Evaluation

namespace RelayGate

namespace Lookup

/-- The answers that decide what can be shown to a client of a region. -/
def deciding (l : Lookup) (policy : DecoyPolicy) (region : String) (verdict : Option Verdict) :
    List (Except Directory.Error (List Endpoint)) :=
  match needsDecoys verdict, policy with
  | true, .replace => [l.decoysIn region]
  | true, .merge => [l.decoysIn region, l.realIn region]
  | false, _ => [l.realIn region]

theorem candidates_cases (l : Lookup) (policy : DecoyPolicy) (region : String)
    (verdict : Option Verdict) :
    (∃ es, l.candidates policy region verdict = .ok es ∧
        (∀ x ∈ l.deciding policy region verdict, ∃ found, x = .ok found) ∧
        (es = [] → ∀ x ∈ l.deciding policy region verdict, x = .ok [])) ∨
      ∃ e, l.candidates policy region verdict = .error e ∧
        .error e ∈ l.deciding policy region verdict := by
  -- What a single query decides.
  have hone (x : Except Directory.Error (List Endpoint)) :
      (∃ es, x = .ok es ∧ (∀ y ∈ [x], ∃ found, y = .ok found) ∧
          (es = [] → ∀ y ∈ [x], y = .ok [])) ∨
        ∃ e, x = .error e ∧ .error e ∈ [x] := by
    cases x with
    | error e => exact .inr ⟨e, rfl, List.mem_singleton.2 rfl⟩
    | ok es => simp
  cases hv : needsDecoys verdict with
  | false => simpa [candidates, deciding, hv] using hone (l.realIn region)
  | true =>
      cases policy with
      | replace => simpa [candidates, deciding, hv] using hone (l.decoysIn region)
      | merge =>
          simp only [candidates, deciding, hv]
          cases l.decoysIn region with
          | error e => exact .inr ⟨e, rfl, List.mem_cons_self⟩
          | ok decoys =>
              cases l.realIn region with
              | error e =>
                  exact .inr ⟨e, rfl, List.mem_cons_of_mem _ (List.mem_singleton.2 rfl)⟩
              | ok real => exact .inl ⟨decoys ++ real, rfl, by simp, by simp⟩

def limited (es : List Endpoint) (limit : Nat) : List Endpoint :=
  leastLoaded es (if limit = 0 then defaultLimit else limit)

theorem limited_eq_nil {es : List Endpoint} {limit : Nat} (h : limited es limit = []) : es = [] := by
  have hlimit : (if limit = 0 then defaultLimit else limit) ≠ 0 := by
    split
    · decide
    · assumption
  have hlength := congrArg List.length h
  rw [limited, leastLoaded, List.length_take, List.length_mergeSort, List.length_nil] at hlength
  exact List.length_eq_zero_iff.1 (by omega)

end Lookup

theorem Pack.Issuer.issueAmid_of_candidates {b : Pack.Issuer} {probes : Nat → Lookup}
    {source : Lookup} {hint : String} {preferred : List String} {verdict : Option Verdict}
    {es : List Endpoint}
    (h : source.candidates b.policy (Lookup.regionAmid probes hint preferred) verdict = .ok es)
    (now : Clock) (client : String) :
    b.issueAmid probes source now client hint preferred verdict =
      .ok (Lookup.regionAmid probes hint preferred,
        (b.draft now client (Lookup.regionAmid probes hint preferred)
          (Lookup.limited es b.maxEndpoints)).sign b.key) := by
  simp only [issueAmid, Lookup.choose, h]
  rfl

theorem Pack.Issuer.region_metadata (b : Pack.Issuer) (client region : String) :
    (b.metadata client region).get? "region" = some region := by
  have hbase : (KeyMap.ofList [("client_id", client), ("region", region)]).get? "region" =
      some region := KeyMap.get?_ofList _ _
  rw [metadata]
  split
  · rw [KeyMap.get?_insert, if_neg (by decide), hbase]
  · exact hbase

namespace Deployment

def decisive (s : Deployment) (a : Surroundings) (r : PackRequest) (verdict : Option Verdict) :
    List (Except Directory.Error (List Endpoint)) :=
  (a.source s.world.lookup).deciding s.service.issuer.policy
    (Lookup.regionAmid (a.probes s.world.lookup) (regionHint r) r.preferred) verdict

theorem issueForAmid_cases (s : Deployment) (a : Surroundings) (r : PackRequest)
    (verdict : Option Verdict) :
    (∃ p region, s.issueForAmid a r verdict = (.ok p,
          { s with world := s.world.emit (.packGenerated region (needsDecoys verdict)) }) ∧
        p.metadata.get? "region" = some region ∧
        (∀ x ∈ s.decisive a r verdict, ∃ found, x = .ok found) ∧
        (p.endpoints = [] → ∀ x ∈ s.decisive a r verdict, x = .ok [])) ∨
      ∃ e, s.issueForAmid a r verdict =
          (.error (.infrastructure "config_generation_failed" e.message), s) ∧
        .error e ∈ s.decisive a r verdict := by
  rcases Lookup.candidates_cases (a.source s.world.lookup) s.service.issuer.policy
    (Lookup.regionAmid (a.probes s.world.lookup) (regionHint r) r.preferred) verdict with
    ⟨es, hes, hfound, hempty⟩ | ⟨e, he, hmem⟩
  · left
    have hissue := Pack.Issuer.issueAmid_of_candidates hes (a.later s.world.clock) r.device
    refine ⟨_, _, by rw [issueForAmid, hissue], s.service.issuer.region_metadata _ _, hfound, ?_⟩
    intro hnone
    exact hempty (Lookup.limited_eq_nil (List.map_eq_nil_iff.1 hnone))
  · right
    refine ⟨e, ?_, hmem⟩
    simp only [issueForAmid, Pack.Issuer.issueAmid, Lookup.choose, he]
    rfl

variable {s : Deployment}

theorem evaluate_eq_error_iff {i : AttestInput} {e : AttestFailure} :
    (s.evaluate i).1 = .error e ↔
      ∃ v, s.service.evaluator.verifierFor i.platform = some v ∧ v.LetDown i e := by
  rw [outcome_evaluate]
  exact Evaluator.outcome_eq_error_iff

theorem world_of_failed {i : AttestInput} {e : AttestFailure} (h : (s.evaluate i).1 = .error e) :
    (s.evaluate i).2.world = { s.world with
      calls := (s.evaluate i).2.world.calls
      events := s.world.events ++ [.attestation i.platform .error (some e.code)] } := by
  have ho : (s.attempt i).outcome = .error e := (s.outcome_evaluate i).symm.trans h
  rw [evaluate_eq]
  simp only [ho, World.attestationEvent, auditRecord?, Option.toList_none, List.append_nil]

/-- In whatever state a service is and whatever happens around it, an evaluation is an error exactly
where the service behind the client's verifier was there and answered too late or with an error, and
it is that error. A request that meets with this gets no pack: it leaves an event of the error, and
neither an event of a pack nor a record. A request whose deciding queries do not all succeed is
answered with the error of one of these, and leaves nothing; so a pack without endpoints means that
all of them have succeeded and have found nothing. And where all of them succeed there is a pack,
however the queries for available regions have fared. -/
theorem faults_surface (s : Deployment) :
    (∀ i e, (s.evaluate i).1 = .error e ↔
      ∃ v, s.service.evaluator.verifierFor i.platform = some v ∧ v.LetDown i e) ∧
    (∀ (a : Surroundings) (r : PackRequest) (token : String) (v : Verifier) (e : AttestFailure),
      r.Admissible → r.attestation = some token → token ≠ "" →
      s.service.evaluator.verifierFor r.platform = some v → v.LetDown (input r token) e →
      s.issuePackAmid a r = (.error (.verification e), {
        service := (s.evaluate (input r token)).2.service
        world := { s.world with
          calls := (s.evaluate (input r token)).2.world.calls
          events := s.world.events ++ [.attestation r.platform .error (some e.code)] } })) ∧
    (∀ (a : Surroundings) (r : PackRequest) (verdict : Option Verdict) (t : Deployment),
      r.Admissible → s.Assessed r verdict t →
      (∀ e, .error e ∈ t.decisive a r verdict → ∃ e', .error e' ∈ t.decisive a r verdict ∧
        s.issuePackAmid a r =
          (.error (.infrastructure "config_generation_failed" e'.message), t)) ∧
      ((∀ x ∈ t.decisive a r verdict, ∃ es, x = .ok es) →
        ∃ p, (s.issuePackAmid a r).1 = .ok p)) ∧
    (∀ (a : Surroundings) (r : PackRequest) (p : Pack),
      (s.issuePackAmid a r).1 = .ok p → p.endpoints = [] →
      ∃ verdict t, s.Assessed r verdict t ∧ ∀ x ∈ t.decisive a r verdict, x = .ok []) ∧
    ∀ r, s.issuePackAmid .still r = s.issuePack r := by
  refine ⟨fun i e => evaluate_eq_error_iff, ?_, ?_, ?_, s.issuePackAmid_still⟩
  · intro a r token v e h htoken hne hv hdown
    have he : (s.evaluate (input r token)).1 = .error e := evaluate_eq_error_iff.2 ⟨v, hv, hdown⟩
    rw [issuePackAmid_of_failed h htoken hne he]
    exact congrArg (fun w => (_, Deployment.mk _ w)) (world_of_failed he)
  · intro a r verdict t h hassessed
    rw [issuePackAmid_of_assessed h hassessed]
    rcases t.issueForAmid_cases a r verdict with ⟨p, region, hp, -, hfound, -⟩ | ⟨e', he', hmem⟩
    · refine ⟨fun e he => ?_, fun _ => ⟨p, by rw [hp]⟩⟩
      obtain ⟨es, hes⟩ := hfound _ he
      exact nomatch hes
    · refine ⟨fun e he => ⟨e', hmem, he'⟩, fun hfound => ?_⟩
      obtain ⟨es, hes⟩ := hfound _ hmem
      exact nomatch hes
  · intro a r p hp hnone
    have hcourse := s.course_issuePackAmid a r
    generalize s.issuePackAmid a r = result at hcourse hp
    cases hcourse with
    | refused | failed => exact nomatch hp
    | @served verdict t h hassessed =>
        refine ⟨verdict, t, hassessed, ?_⟩
        rcases t.issueForAmid_cases a r verdict with ⟨q, region, hq, -, -, hempty⟩ | ⟨e, he, -⟩
        · rw [hq] at hp
          obtain rfl := Except.ok.inj hp
          exact hempty hnone
        · rw [he] at hp
          exact nomatch hp

end Deployment

namespace Fleet

def unattested : PackRequest := { request with attestation := none }

def unreachable : PackRequest := { request with attestation := some "unreachable" }

def refusal : Directory.Error := .unavailable "connection refused"

def troubled (faults : Faults) : Deployment := ⟨service, { World.atClock clock with faults := faults }⟩

def undecided : Deployment := troubled { Faults.none with decoysIn := fun _ => some refusal }

def unprobed : Deployment := troubled { Faults.none with realIn := fun _ => some refusal }

end Fleet

theorem Deployment.faults_surface_fleet :
    (∃ t, (Fleet.troubled .none).issuePack Fleet.unreachable =
        (.error (.verification (.backend "playintegrity.googleapis.com: 503")), t) ∧
      t.world.audit = []) ∧
      (Fleet.undecided.issuePack Fleet.unattested).1 =
        .error (.infrastructure "config_generation_failed"
          "directory unavailable: connection refused") ∧
      ∃ p, (Fleet.unprobed.issuePack Fleet.unattested).1 = .ok p ∧ p.endpoints = [] ∧
        ∃ verdict t, Fleet.unprobed.Assessed Fleet.unattested verdict t ∧
          ∀ x ∈ t.decisive .still Fleet.unattested verdict, x = .ok [] := by
  have hunattested : Fleet.unattested.Admissible := ⟨⟨'d', by decide, by decide⟩, .inl rfl⟩
  refine ⟨?_, ?_, ?_⟩
  · obtain ⟨-, hfailed, -, -, hstill⟩ := Deployment.faults_surface (Fleet.troubled .none)
    have hdown : Verifier.LetDown (Deployment.input Fleet.unreachable "unreachable")
        (.play (.new Fleet.settings.play (some (Fleet.connector (some Fleet.payload))) none))
        (.backend "playintegrity.googleapis.com: 503") :=
      .play rfl rfl (.inr ⟨rfl, _, rfl, rfl⟩) (.error (by decide) rfl)
    have hunreachable : Fleet.unreachable.Admissible := ⟨hunattested.device, .inl rfl⟩
    rw [← hstill, hfailed .still _ _ _ _ hunreachable rfl (by decide) rfl hdown]
    exact ⟨_, rfl, rfl⟩
  · obtain ⟨-, -, hdecided, -, hstill⟩ := Deployment.faults_surface Fleet.undecided
    obtain ⟨hrefused, -⟩ := hdecided .still _ _ _ hunattested (.unattested (.inl rfl))
    obtain ⟨e, he, hanswer⟩ := hrefused Fleet.refusal (List.mem_singleton.2 rfl)
    obtain rfl := Except.error.inj (List.mem_singleton.1 he)
    rw [← hstill, hanswer]
    rfl
  · obtain ⟨-, -, hdecided, hfruitless, hstill⟩ := Deployment.faults_surface Fleet.unprobed
    have hassessed := Deployment.Assessed.unattested (s := Fleet.unprobed) (r := Fleet.unattested)
      (.inl rfl)
    obtain ⟨-, hserved⟩ := hdecided .still _ _ _ hunattested hassessed
    obtain ⟨p, hp⟩ := hserved fun x hx => ⟨[], List.mem_singleton.1 hx⟩
    have hnone : p.endpoints = [] := by
      have hfound : Fleet.unprobed.world.lookup.candidates .replace
          (Lookup.regionAmid (fun _ => Fleet.unprobed.world.lookup) "us-east-1" []) none =
          .ok [] := rfl
      rw [Deployment.issuePackAmid_of_assessed hunattested hassessed, Deployment.issueForAmid,
        Pack.Issuer.issueAmid_of_candidates hfound] at hp
      obtain rfl := Except.ok.inj hp
      simp [Pack.sign, Pack.Issuer.draft, Lookup.limited, leastLoaded]
    rw [← hstill]
    exact ⟨p, hp, hnone, hfruitless .still _ p hp hnone⟩

end RelayGate
