import RelayGate.Proofs.Relay.Directory

namespace RelayGate

namespace Endpoint

/-- Nobody can tell the endpoints apart by what the listing is made from. -/
structure SameFront (e f : Endpoint) : Prop where
  id : e.id = f.id
  region : e.region = f.region
  status : e.status = f.status
  users : e.users = f.users
  maxUsers : e.maxUsers = f.maxUsers
  lastSeen : e.lastSeen = f.lastSeen

theorem sameFront_iff {e f : Endpoint} : e.SameFront f ↔ e.listingEntry = f.listingEntry := by
  constructor
  · rintro ⟨hid, hregion, hstatus, husers, hmax, hseen⟩
    simp only [listingEntry, callsign, hid, hregion, hstatus, husers, hmax, hseen]
  · intro h
    obtain ⟨hid, -, hregion, hstatus, husers, hmax, hseen⟩ := ListingEntry.mk.inj h
    exact ⟨hid, hregion, hstatus, husers, hmax, hseen⟩

def after (c : Directory.Call) (e : Endpoint) : Endpoint :=
  e.withStanding (e.standing.after e.id e.maxUsers c)

theorem after_of_ne {c : Directory.Call} {e : Endpoint} (h : c.subject ≠ e.id) : e.after c = e := by
  rw [after, Directory.after_of_ne h]
  rfl

theorem change_eq_after {c : Directory.Call} (hc : c.upserted? = none) {e : Endpoint}
    (h : e.id = c.subject) : c.change e = e.after c := by
  rw [after, h]
  exact Directory.change_withStanding (u := e) (s := e.standing) hc

end Endpoint

namespace ListingEntry

def after (c : Directory.Call) (x : ListingEntry) : ListingEntry :=
  let s := Standing.after x.id x.maxUsers ⟨x.status, x.users, x.lastSeen⟩ c
  { x with status := s.status, users := s.users, lastSeen := s.lastSeen }

def answers (x : ListingEntry) : Bool := x.status == .active || x.status == .degraded

end ListingEntry

namespace Directory

variable {d : Directory} {c : Call}

def reals (d : Directory) : List Endpoint := d.rows.filter fun e => !e.isDecoy

def fronts (d : Directory) : List ListingEntry := d.reals.map Endpoint.listingEntry

theorem fronts_eq_iff {d' : Directory} :
    d.fronts = d'.fronts ↔ List.Forall₂ Endpoint.SameFront d.reals d'.reals := by
  have hsame : Endpoint.SameFront = fun e f => e.listingEntry = f.listingEntry := by
    funext e f
    exact propext Endpoint.sameFront_iff
  rw [fronts, fronts, ← List.forall₂_eq_eq_eq, List.forall₂_map_left_iff,
    List.forall₂_map_right_iff, hsame]

theorem updateRow_eq_map (f : Endpoint → Endpoint) {id : String} {rows : List Endpoint}
    (h : (rows.map (·.id)).Nodup) :
    updateRow f id rows = rows.map fun e => if e.id = id then f e else e := by
  induction rows with
  | nil => rfl
  | cons e rows ih =>
      obtain ⟨hfresh, hrest⟩ := List.nodup_cons.1 h
      rw [updateRow, List.map_cons]
      split
      · next he =>
          -- There is no second row with the id.
          have hkeep : ∀ x ∈ rows, (if x.id = id then f x else x) = x := by
            intro x hx
            apply if_neg
            intro hid
            exact hfresh (List.mem_map.2 ⟨x, hx, hid.trans he.symm⟩)
          rw [List.map_congr_left hkeep, List.map_id']
      · rw [ih hrest]

/-- A report or a load does to each row what its id says, and to no row anything else. -/
theorem rows_perform (h : d.ids.Nodup) (hc : c.upserted? = none) :
    (d.perform c).2.rows = d.rows.map (Endpoint.after c) := by
  by_cases hmem : c.subject ∈ d.ids
  · rw [(perform_of_mem hmem).2, updateRow_eq_map _ h]
    apply List.map_congr_left
    intro e _
    by_cases hid : e.id = c.subject
    · rw [if_pos hid, Endpoint.change_eq_after hc hid]
    · rw [if_neg hid, Endpoint.after_of_ne fun hs => hid hs.symm]
  · have hkeep : ∀ e ∈ d.rows, e.after c = e := by
      intro e he
      apply Endpoint.after_of_ne
      intro hid
      exact hmem (List.mem_map.2 ⟨e, he, hid.symm⟩)
    rcases perform_of_not_mem hmem with ⟨u, rfl, -⟩ | ⟨-, hp⟩
    · exact nomatch hc
    · rw [hp, List.map_congr_left hkeep, List.map_id']

theorem fronts_perform (h : d.ids.Nodup) (hc : c.upserted? = none) :
    (d.perform c).2.fronts = d.fronts.map (ListingEntry.after c) := by
  have hkind : (fun e : Endpoint => !e.isDecoy) ∘ Endpoint.after c = fun e => !e.isDecoy := rfl
  have hfront : Endpoint.listingEntry ∘ Endpoint.after c =
      ListingEntry.after c ∘ Endpoint.listingEntry := rfl
  rw [fronts, reals, rows_perform h hc, List.filter_map, hkind, List.map_map, hfront, ← List.map_map]
  rfl

theorem listed_eq (d : Directory) : d.listed = d.rows.filter fun e =>
    (e.status = .active ∨ e.status = .degraded) ∧ e.isDecoy = false := by
  apply List.filter_congr
  intro e _
  rw [Bool.eq_iff_iff]
  simp only [Bool.and_eq_true, Bool.or_eq_true, beq_iff_eq, Bool.not_eq_true', decide_eq_true_eq]

theorem map_listed (d : Directory) :
    d.listed.map Endpoint.listingEntry = d.fronts.filter ListingEntry.answers := by
  rw [fronts, reals, List.filter_map, List.filter_filter]
  rfl

theorem id_ne_of_mem_listed (h : d.ids.Nodup) {x : ListingEntry}
    (hx : x ∈ d.listed.map Endpoint.listingEntry) {decoy : Endpoint} (hdecoy : decoy ∈ d.rows)
    (hkind : decoy.isDecoy = true) : x.id ≠ decoy.id := by
  obtain ⟨e, he, rfl⟩ := List.mem_map.1 hx
  obtain ⟨hrow, hlisted⟩ := List.mem_filter.1 he
  intro hid
  obtain rfl : e = decoy := List.inj_on_of_nodup_map h hrow hdecoy hid
  rw [hkind, Bool.not_true, Bool.and_false] at hlisted
  exact nomatch hlisted

end Directory

end RelayGate
