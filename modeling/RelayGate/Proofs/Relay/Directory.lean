import Mathlib.Data.List.Induction
import Mathlib.Data.List.Nodup
import RelayGate.Relay.Directory

namespace RelayGate

/-- A call that writes to the directory; a report comes with the second at which it arrives. -/
inductive Directory.Call where
  | upsert (e : Endpoint)
  | report (now : UInt64) (r : RelayReport)
  | load (now : UInt64) (id : String) (fraction : Binary64)

namespace Directory.Call

def subject : Call → String
  | upsert e => e.id
  | report _ r => r.endpoint
  | load _ id _ => id

def upserted? : Call → Option String
  | upsert e => some e.id
  | _ => none

def change : Call → Endpoint → Endpoint
  | upsert e, _ => e
  | report now r, e => { e with status := r.status, users := r.users, lastSeen := some now }
  | load now _ fraction, e => withLoad now fraction e

end Directory.Call

/-! ### Replaying reports -/

structure Standing where
  status : RelayStatus
  users : UInt32
  lastSeen : Option UInt64

/-- The standing after a call of an endpoint with this id and capacity. Without a capacity a load
says nothing about the number of users. -/
def Standing.after (id : String) (max : Option UInt32) (s : Standing) : Directory.Call → Standing
  | .upsert _ => s
  | .report now r => if r.endpoint = id then ⟨r.status, r.users, some now⟩ else s
  | .load now subject fraction =>
    if subject = id then
      match max with
      | some max => ⟨s.status, Directory.usersAt fraction max, some now⟩
      | none => ⟨s.status, s.users, some now⟩
    else s

namespace Endpoint

def standing (e : Endpoint) : Standing := ⟨e.status, e.users, e.lastSeen⟩

def withStanding (e : Endpoint) (s : Standing) : Endpoint :=
  { e with status := s.status, users := s.users, lastSeen := s.lastSeen }

end Endpoint

namespace Directory

def ids (d : Directory) : List String := d.rows.map (·.id)

def perform (d : Directory) : Call → Except Error Unit × Directory
  | .upsert e => (.ok (), d.upsert e)
  | .report now r =>
    match d.applyReport now r with
    | .ok d' => (.ok (), d')
    | .error e => (.error e, d)
  | .load now id fraction =>
    match d.setLoad now id fraction with
    | .ok d' => (.ok (), d')
    | .error e => (.error e, d)

def run (d : Directory) (calls : List Call) : Directory :=
  calls.foldl (fun d c => (d.perform c).2) d

/-- What a history says of the directory that it leaves: there is one row for each id, in the order
in which the ids first came, and the row is what was last put in under the id, in the standing that
the reports on it since then have brought about. -/
structure Recounts (calls : List Call) (d : Directory) : Prop where
  order : d.ids = (calls.filterMap Call.upserted?).eraseDups
  distinct : d.ids.Nodup
  get : ∀ id e, d.get? id = some e ↔ e ∈ d.rows ∧ e.id = id
  row : ∀ e ∈ d.rows, ∃ before u later, calls = before ++ .upsert u :: later ∧ u.id = e.id ∧
    (∀ v, .upsert v ∈ later → v.id ≠ e.id) ∧
      e = u.withStanding (later.foldl (Standing.after e.id u.maxUsers) u.standing)

/-! ### One row -/

section Rows

variable {f : Endpoint → Endpoint} {id : String}

theorem exists_updateRow (f : Endpoint → Endpoint) {rows : List Endpoint}
    (h : id ∈ rows.map (·.id)) : ∃ before e behind, rows = before ++ e :: behind ∧ e.id = id ∧
      (∀ x ∈ before, x.id ≠ id) ∧ updateRow f id rows = before ++ f e :: behind := by
  induction rows with
  | nil => exact absurd h List.not_mem_nil
  | cons x xs ih =>
      by_cases hx : x.id = id
      · refine ⟨[], x, xs, rfl, hx, ?_, ?_⟩
        · intro y hy
          exact absurd hy List.not_mem_nil
        · rw [updateRow, if_pos hx, List.nil_append]
      · rcases List.mem_cons.1 h with rfl | hmem
        · exact absurd rfl hx
        · obtain ⟨before, e, behind, hrows, he, hbefore, hupdate⟩ := ih hmem
          refine ⟨x :: before, e, behind, ?_, he, ?_, ?_⟩
          · rw [hrows, List.cons_append]
          · intro y hy
            rcases List.mem_cons.1 hy with rfl | hy
            · exact hx
            · exact hbefore y hy
          · rw [updateRow, if_neg hx, hupdate, List.cons_append]

theorem map_updateRow {α : Type} (g : Endpoint → α) (hf : ∀ e, e.id = id → g (f e) = g e)
    (rows : List Endpoint) : (updateRow f id rows).map g = rows.map g := by
  induction rows with
  | nil => rfl
  | cons x xs ih =>
      by_cases hx : x.id = id
      · rw [updateRow, if_pos hx, List.map_cons, List.map_cons, hf x hx]
      · rw [updateRow, if_neg hx, List.map_cons, List.map_cons, ih]

theorem find?_updateRow (hf : ∀ e, e.id = id → (f e).id = id) (rows : List Endpoint)
    (other : String) : (updateRow f id rows).find? (·.id == other) =
      if id = other then (rows.find? (·.id == other)).map f
      else rows.find? (·.id == other) := by
  induction rows with
  | nil => simp [updateRow]
  | cons x xs ih =>
      by_cases hx : x.id = id
      · by_cases ho : id = other
        · subst ho
          simp [updateRow, hx, hf x hx]
        · simp [updateRow, hx, hf x hx, ho]
      · rw [updateRow, if_neg hx]
        by_cases ho : id = other
        · subst ho
          have hskip : (x.id == id) = false := by simpa using hx
          simp only [List.find?_cons, hskip, ih]
        · rw [if_neg ho] at ih ⊢
          rw [List.find?_cons, List.find?_cons, ih]

end Rows

/-! ### One call -/

variable {d : Directory} {c : Call}

theorem get?_eq_none_iff {id : String} : d.get? id = none ↔ id ∉ d.ids := by
  simp [get?, ids]

theorem exists_get? {id : String} (h : id ∈ d.ids) : ∃ e, d.get? id = some e := by
  rw [← Option.isSome_iff_exists, ← Option.ne_none_iff_isSome]
  exact fun hnone => get?_eq_none_iff.1 hnone h

theorem Call.id_change {e : Endpoint} (h : e.id = c.subject) : (c.change e).id = c.subject := by
  cases c with
  | upsert u => simp only [change, subject]
  | report | load => exact h

theorem perform_of_mem (h : c.subject ∈ d.ids) : (d.perform c).1 = .ok () ∧
    (d.perform c).2.rows = updateRow c.change c.subject d.rows := by
  obtain ⟨e, he⟩ := exists_get? h
  cases c with
  | upsert u =>
      rw [Call.subject] at he
      simp only [perform, upsert, he, Call.subject, true_and]
      rfl
  | report now r =>
      rw [Call.subject] at he
      simp only [perform, applyReport, he, Call.subject, true_and]
      rfl
  | load now id fraction =>
      rw [Call.subject] at he
      simp only [perform, setLoad, he, Call.subject, true_and]
      rfl

theorem perform_of_not_mem (h : c.subject ∉ d.ids) :
    (∃ u, c = .upsert u ∧ d.perform c = (.ok (), { d with rows := d.rows ++ [u] })) ∨
      c.upserted? = none ∧ d.perform c = (.error (.notFound c.subject), d) := by
  have hnone := get?_eq_none_iff.2 h
  cases c with
  | upsert u =>
      rw [Call.subject] at hnone
      exact .inl ⟨u, rfl, by simp only [perform, upsert, hnone]⟩
  | report now r =>
      rw [Call.subject] at hnone
      exact .inr ⟨rfl, by simp only [perform, applyReport, hnone, Call.subject]⟩
  | load now id fraction =>
      rw [Call.subject] at hnone
      exact .inr ⟨rfl, by simp only [perform, setLoad, hnone, Call.subject]⟩

theorem ids_perform_of_mem (h : c.subject ∈ d.ids) : (d.perform c).2.ids = d.ids := by
  rw [ids, (perform_of_mem h).2]
  exact map_updateRow _ (fun e he => (Call.id_change he).trans he.symm) d.rows

def Call.revise : Call → Option Endpoint → Option Endpoint
  | upsert u, _ => some u
  | c, row => row.map c.change

theorem Call.revise_of_upserted (h : c.upserted? = none) (row : Option Endpoint) :
    c.revise row = row.map c.change := by
  cases c with
  | upsert u => exact nomatch h
  | report | load => rfl

theorem Call.upserted?_eq_some {id : String} (h : c.upserted? = some id) :
    ∃ u, c = .upsert u ∧ u.id = id := by
  cases c with
  | upsert u => exact ⟨u, rfl, Option.some.inj h⟩
  | report | load => exact nomatch h

theorem get?_perform (d : Directory) (c : Call) (id : String) : (d.perform c).2.get? id =
    if c.subject = id then c.revise (d.get? id) else d.get? id := by
  by_cases h : c.subject ∈ d.ids
  · obtain ⟨e, he⟩ := exists_get? h
    rw [get?, (perform_of_mem h).2, find?_updateRow (fun _ => Call.id_change)]
    by_cases hs : c.subject = id
    · subst hs
      rw [if_pos rfl, if_pos rfl, he]
      change (d.get? c.subject).map c.change = _
      rw [he]
      cases c <;> rfl
    · rw [if_neg hs, if_neg hs]
      rfl
  · rcases perform_of_not_mem h with ⟨u, rfl, hp⟩ | ⟨hc, hp⟩
    · rw [hp, get?, List.find?_append]
      by_cases hs : u.id = id
      · subst hs
        have hnone : d.rows.find? (·.id == u.id) = none := get?_eq_none_iff.2 h
        simp [hnone, Call.subject, Call.revise]
      · simp [Call.subject, hs, get?]
    · rw [hp]
      by_cases hs : c.subject = id
      · subst hs
        rw [if_pos rfl, get?_eq_none_iff.2 h]
        cases c with
        | upsert u => exact nomatch hc
        | report | load => rfl
      · rw [if_neg hs]

theorem change_withStanding {u : Endpoint} {s : Standing} (hc : c.upserted? = none) :
    c.change (u.withStanding s) = u.withStanding (s.after c.subject u.maxUsers c) := by
  cases c with
  | upsert v => exact nomatch hc
  | report now r => simp [Call.change, Call.subject, Standing.after, Endpoint.withStanding]
  | load now id fraction =>
      cases hm : u.maxUsers <;>
        simp [Call.change, Call.subject, Standing.after, Endpoint.withStanding, withLoad, hm]

theorem after_of_ne {id : String} (h : c.subject ≠ id) (max : Option UInt32) (s : Standing) :
    s.after id max c = s := by
  cases c with
  | upsert u => rfl
  | report now r => exact if_neg h
  | load now subject fraction => exact if_neg h

/-! ### Histories -/

theorem run_concat (d : Directory) (calls : List Call) (c : Call) :
    d.run (calls ++ [c]) = ((d.run calls).perform c).2 := by
  rw [run, List.foldl_append]
  rfl

theorem eraseDups_concat (xs : List String) (x : String) :
    (xs ++ [x]).eraseDups = if x ∈ xs then xs.eraseDups else xs.eraseDups ++ [x] := by
  rw [List.eraseDups_append]
  by_cases h : x ∈ xs <;> simp [List.removeAll, h, List.eraseDups_cons]

theorem ids_run (calls : List Call) :
    (empty.run calls).ids = (calls.filterMap Call.upserted?).eraseDups := by
  -- From the back: the last call finds the table that the calls before it have left.
  induction calls using List.reverseRecOn with
  | nil => rfl
  | append_singleton calls c ih =>
      rw [run_concat, List.filterMap_append]
      by_cases h : c.subject ∈ (empty.run calls).ids
      · rw [ids_perform_of_mem h, ih]
        cases c with
        | upsert u =>
            rw [ih, List.mem_eraseDups] at h
            exact (eraseDups_concat _ u.id).trans (if_pos h) |>.symm
        | report | load => exact congrArg List.eraseDups (List.append_nil _).symm
      · rcases perform_of_not_mem h with ⟨u, rfl, hp⟩ | ⟨hc, hp⟩
        · rw [hp, ids, List.map_append]
          change (empty.run calls).ids ++ [u.id] = _
          rw [ih, List.mem_eraseDups] at h
          rw [ih]
          exact (eraseDups_concat _ u.id).trans (if_neg h) |>.symm
        · simp [hp, hc, ih]

theorem nodup_perform (h : d.ids.Nodup) (c : Call) : (d.perform c).2.ids.Nodup := by
  by_cases hmem : c.subject ∈ d.ids
  · rwa [ids_perform_of_mem hmem]
  · rcases perform_of_not_mem hmem with ⟨u, rfl, hp⟩ | ⟨-, hp⟩
    · rw [hp, ids, List.map_append]
      apply List.nodup_append.2
      refine ⟨h, List.pairwise_singleton _ _, ?_⟩
      intro x hx y hy hxy
      rw [List.map_singleton, List.mem_singleton] at hy
      rw [hxy, hy] at hx
      exact hmem hx
    · rwa [hp]

theorem nodup_run (h : d.ids.Nodup) (calls : List Call) : (d.run calls).ids.Nodup := by
  induction calls generalizing d with
  | nil => exact h
  | cons c cs ih => exact ih (nodup_perform h c)

theorem get?_eq_some_iff (h : d.ids.Nodup) {id : String} {e : Endpoint} :
    d.get? id = some e ↔ e ∈ d.rows ∧ e.id = id := by
  constructor
  · intro he
    exact ⟨List.mem_of_find?_eq_some he, by simpa using List.find?_some he⟩
  · rintro ⟨he, rfl⟩
    obtain ⟨f, hf⟩ := exists_get? (d := d) (List.mem_map_of_mem he)
    have hid : f.id = e.id := by simpa using List.find?_some hf
    rw [hf, List.inj_on_of_nodup_map h (List.mem_of_find?_eq_some hf) he hid]

theorem replay_perform {id : String} {e : Endpoint} (hc : c.upserted? ≠ some id)
    (h : (d.perform c).2.get? id = some e) : ∃ old, d.get? id = some old ∧
      ∀ (u : Endpoint) (s : Standing), old = u.withStanding s →
        e = u.withStanding (s.after id u.maxUsers c) := by
  rw [get?_perform] at h
  by_cases hs : c.subject = id
  · subst hs
    have hnone : c.upserted? = none := by
      cases c with
      | upsert u => exact absurd rfl hc
      | report | load => rfl
    rw [if_pos rfl, Call.revise_of_upserted hnone] at h
    obtain ⟨old, hold, rfl⟩ := Option.map_eq_some_iff.1 h
    refine ⟨old, hold, ?_⟩
    rintro u s rfl
    exact change_withStanding hnone
  · rw [if_neg hs] at h
    refine ⟨e, h, ?_⟩
    rintro u s rfl
    rw [after_of_ne hs]

theorem get?_run {calls : List Call} {id : String} {e : Endpoint}
    (h : (empty.run calls).get? id = some e) :
    ∃ before u later, calls = before ++ .upsert u :: later ∧ u.id = id ∧
      (∀ v, .upsert v ∈ later → v.id ≠ id) ∧
        e = u.withStanding (later.foldl (Standing.after id u.maxUsers) u.standing) := by
  induction calls using List.reverseRecOn generalizing e with
  | nil => exact nomatch h
  | append_singleton calls c ih =>
      rw [run_concat] at h
      -- Either the row was put in just now, or it was there, and the last call is one more to replay.
      by_cases hc : c.upserted? = some id
      · obtain ⟨u, rfl, rfl⟩ := Call.upserted?_eq_some hc
        rw [get?_perform, Call.subject, if_pos rfl] at h
        obtain rfl := Option.some.inj h
        exact ⟨calls, u, [], rfl, rfl, fun v hv => absurd hv List.not_mem_nil, rfl⟩
      · obtain ⟨old, hold, hreplay⟩ := replay_perform hc h
        obtain ⟨before, u, later, rfl, hu, hlater, he⟩ := ih hold
        refine ⟨before, u, later ++ [c], List.append_assoc _ _ _, hu, ?_, ?_⟩
        · intro v hv
          rcases List.mem_append.1 hv with hv | hv
          · exact hlater v hv
          · obtain rfl := List.mem_singleton.1 hv
            exact fun hid => hc (congrArg some hid)
        · rw [List.foldl_append]
          exact hreplay u _ he

theorem recounts (calls : List Call) : Recounts calls (empty.run calls) := by
  have hdistinct : (empty.run calls).ids.Nodup := nodup_run (d := empty) List.nodup_nil calls
  refine ⟨ids_run calls, hdistinct, fun id e => get?_eq_some_iff hdistinct, ?_⟩
  intro e he
  exact get?_run ((get?_eq_some_iff hdistinct).2 ⟨he, rfl⟩)

/-! ### What follows -/

theorem perform_eq_ok_iff (calls : List Call) (c : Call) :
    ((empty.run calls).perform c).1 = .ok () ↔
      (∃ u, c = .upsert u) ∨ ∃ u, .upsert u ∈ calls ∧ u.id = c.subject := by
  have hmem : c.subject ∈ (empty.run calls).ids ↔ ∃ u, .upsert u ∈ calls ∧ u.id = c.subject := by
    rw [ids_run, List.mem_eraseDups, List.mem_filterMap]
    constructor
    · rintro ⟨b, hb, hs⟩
      obtain ⟨u, rfl, hu⟩ := Call.upserted?_eq_some hs
      exact ⟨u, hb, hu⟩
    · rintro ⟨u, hu, hs⟩
      exact ⟨.upsert u, hu, congrArg some hs⟩
  rw [← hmem]
  by_cases h : c.subject ∈ (empty.run calls).ids
  · exact ⟨fun _ => .inr h, fun _ => (perform_of_mem h).1⟩
  · rcases perform_of_not_mem h with ⟨u, rfl, hp⟩ | ⟨hc, hp⟩
    · rw [hp]
      exact ⟨fun _ => .inl ⟨u, rfl⟩, fun _ => rfl⟩
    · rw [hp]
      constructor
      · intro hok
        exact nomatch hok
      · rintro (⟨u, rfl⟩ | hin)
        · exact nomatch hc
        · exact absurd hin h

theorem usersAt_le (fraction : Binary64) (max : UInt32) : usersAt fraction max ≤ max := by
  rw [UInt32.le_iff_toNat_le, usersAt, UInt32.toNat_ofNat_of_lt']
  · exact Nat.min_le_right _ _
  · exact Nat.lt_of_le_of_lt (Nat.min_le_right _ _) max.toNat_lt

theorem place_perform (d : Directory) (h : c.upserted? = none) :
    (d.perform c).2.rows.map (fun e => (e.id, e.region, e.isDecoy)) =
      d.rows.map fun e => (e.id, e.region, e.isDecoy) := by
  by_cases hmem : c.subject ∈ d.ids
  · rw [(perform_of_mem hmem).2]
    apply map_updateRow
    intro e _
    cases c with
    | upsert u => exact nomatch h
    | report | load => rfl
  · rcases perform_of_not_mem hmem with ⟨u, rfl, -⟩ | ⟨-, hp⟩
    · exact nomatch h
    · rw [hp]

theorem ne_of_mem_realIn {region other : String} {real decoy : Endpoint} (h : d.ids.Nodup)
    (hreal : real ∈ d.realIn region) (hdecoy : decoy ∈ d.decoysIn other) : real.id ≠ decoy.id := by
  have hr := List.mem_filter.1 (List.mem_of_mem_take hreal)
  have hd := List.mem_filter.1 (List.mem_of_mem_take hdecoy)
  intro hid
  obtain rfl := List.inj_on_of_nodup_map h hr.1 hd.1 hid
  have hnot := (Bool.and_eq_true_iff.1 hr.2).2
  rw [(Bool.and_eq_true_iff.1 hd.2).2] at hnot
  exact nomatch hnot

/-- Whatever has been called since the directory was empty, it is told by the history of calls as a
map from ids in the order of their first coming. Hence no report moves an endpoint to another region
or across the line between real relays and decoys, and no query for real relays and no query for
decoys share an endpoint. -/
theorem run_keyed (calls : List Call) :
    let d := empty.run calls
    Recounts calls d ∧
      (∀ c, (d.perform c).1 = .ok () ↔
        (∃ u, c = .upsert u) ∨ ∃ u, .upsert u ∈ calls ∧ u.id = c.subject) ∧
      (∀ fraction max, usersAt fraction max ≤ max) ∧
      (∀ c, c.upserted? = none →
        (d.perform c).2.rows.map (fun e => (e.id, e.region, e.isDecoy)) =
          d.rows.map fun e => (e.id, e.region, e.isDecoy)) ∧
      ∀ region other real decoy, real ∈ d.realIn region → decoy ∈ d.decoysIn other →
        real.id ≠ decoy.id := by
  have hrecounts := recounts calls
  refine ⟨hrecounts, perform_eq_ok_iff calls, usersAt_le, ?_, ?_⟩
  · intro c hc
    exact place_perform _ hc
  · intro region other real decoy hreal hdecoy
    exact ne_of_mem_realIn hrecounts.distinct hreal hdecoy

def sample (id region : String) (isDecoy : Bool) : Endpoint where
  id := id
  publicKey := []
  address := "192.0.2.1"
  port := 443
  transports := ["quic"]
  channels := []
  region := region
  users := 0
  maxUsers := some 200
  status := .active
  isDecoy := isDecoy
  lastSeen := none

def sampleHistory : List Call :=
  [.report 1 ⟨"b", .offline, 7, 0, 0, .one⟩, .upsert (sample "a" "us-east-1" false),
    .upsert (sample "b" "us-east-1" false), .report 2 ⟨"a", .offline, 9, 0, 0, .one⟩,
    .upsert (sample "a" "eu-west-1" true), .load 3 "a" (.ofRatio 1 4),
    .report 4 ⟨"b", .active, 5, 0, 0, .one⟩]

theorem run_keyed_sample :
    let d := empty.run sampleHistory
    let a := { sample "a" "eu-west-1" true with users := 50, lastSeen := some 3 }
    let b := { sample "b" "us-east-1" false with users := 5, lastSeen := some 4 }
    d.ids = ["a", "b"] ∧ d.get? "a" = some a ∧ d.get? "b" = some b ∧
      (d.perform (.load 5 "c" .one)).1 ≠ .ok () ∧
      (d.perform (.load 5 "a" .one)).2.rows.map (fun e => (e.id, e.region, e.isDecoy)) =
        [("a", "eu-west-1", true), ("b", "us-east-1", false)] ∧
      b ∈ d.realIn "us-east-1" ∧ a ∈ d.decoysIn "eu-west-1" ∧ b.id ≠ a.id := by
  intro d a b
  obtain ⟨hrecounts, hok, -, hplace, happart⟩ := run_keyed sampleHistory
  have hrows : d.rows = [a, b] := by decide +kernel
  have hreal : b ∈ d.realIn "us-east-1" := by decide +kernel
  have hdecoy : a ∈ d.decoysIn "eu-west-1" := by decide +kernel
  refine ⟨?_, ?_, ?_, ?_, ?_, hreal, hdecoy, happart _ _ b a hreal hdecoy⟩
  · exact hrecounts.order.trans (by decide)
  · refine (hrecounts.get "a" a).2 ⟨?_, rfl⟩
    rw [hrows]
    exact List.mem_cons_self
  · refine (hrecounts.get "b" b).2 ⟨?_, rfl⟩
    rw [hrows]
    exact List.mem_cons_of_mem a List.mem_cons_self
  · intro h
    rcases (hok _).1 h with ⟨u, hu⟩ | ⟨u, hu, hid⟩
    · exact nomatch hu
    · have hids : ∀ u, Call.upsert u ∈ sampleHistory → u.id ≠ "c" := by
        simp [sampleHistory, sample]
      exact hids u hu hid
  · rw [hplace _ rfl]
    decide +kernel

end Directory

end RelayGate
