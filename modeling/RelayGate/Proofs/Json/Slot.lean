import RelayGate.Proofs.Json.Field

/-!
Records in which one value is left open. Main statement: all columns but that of the value are the same
whatever the value is, and to leave its field out makes no other difference.
-/

namespace RelayGate.Json

variable {s : Shape} {name other : String} {v : Json}

theorem columns_eq_none (h : ¬ s.IsRecord v) : s.columns v = none :=
  Option.eq_none_iff_forall_ne_some.2 fun _ hcolumns => h (isRecord_of_columns hcolumns)

theorem columns_of_others (hd : s.names.Nodup) {v w : Json} (hrecord : s.IsRecord v ↔ s.IsRecord w)
    (hothers : ∀ other, other ≠ name → s.field other v = s.field other w) : s.columns v =
      (s.columns w).map fun columns => columns.set (s.names.idxOf name) (s.field name v) := by
  by_cases h : s.IsRecord w
  · rw [(columns_eq_some_iff hd).2 ⟨hrecord.2 h, rfl⟩, (columns_eq_some_iff hd).2 ⟨h, rfl⟩,
      Option.map_some, Option.some.injEq]
    apply List.ext_getElem
    · simp
    · intro n hn hn'
      have hlt : n < s.names.length := by simpa using hn
      rw [List.getElem_map, List.getElem_set]
      split
      · next hplace =>
          subst hplace
          rw [List.getElem_idxOf hlt]
      · next hplace =>
          rw [List.getElem_map]
          apply hothers
          rintro rfl
          exact hplace (hd.idxOf_getElem n hlt)
  · rw [columns_eq_none h, columns_eq_none (mt hrecord.1 h), Option.map_none]

section

variable {before after : List (Option String × Json)}

theorem isRecord_object_iff {fields : List (Option String × Json)} : s.IsRecord (.object fields) ↔
    (∀ key ∈ fields.map Prod.fst, key.isSome = true) ∧
      ∀ name ∈ s.names, (fields.map Prod.fst).count (some name) ≤ 1 := by
  rw [List.forall_mem_map]
  constructor
  · intro h
    cases h with
    | object hread honce => exact ⟨hread, honce⟩
  · rintro ⟨hread, honce⟩
    exact .object hread honce

theorem isRecord_without_iff (h : ∀ f ∈ before ++ after, f.1 ≠ some name) (v : Json) :
    s.IsRecord (.object (before ++ after)) ↔
      s.IsRecord (.object (before ++ (some name, v) :: after)) := by
  have habsent : ((before ++ after).map Prod.fst).count (some name) = 0 := by
    rw [List.count_eq_zero, List.mem_map]
    rintro ⟨f, hf, hname⟩
    exact h f hf hname
  have hperm : ((before ++ (some name, v) :: after).map Prod.fst).Perm
      (some name :: (before ++ after).map Prod.fst) := List.perm_middle.map Prod.fst
  rw [isRecord_object_iff, isRecord_object_iff]
  refine and_congr ?_ (forall₂_congr fun other _ => ?_)
  · simp only [hperm.mem_iff, List.forall_mem_cons, Option.isSome_some, true_and]
  · rw [hperm.count_eq]
    by_cases hother : name = other
    · rw [← hother, habsent, List.count_cons_self, habsent]
      decide
    · rw [List.count_cons_of_ne fun heq => hother (Option.some.inj heq)]

theorem field_object_of_ne (h : other ≠ name) (v : Json) :
    s.field other (.object (before ++ (some name, v) :: after)) =
      s.field other (.object (before ++ after)) := by
  have hne : (some other == some name) = false := by simpa using h
  simp only [Shape.field, List.lookup_append, List.lookup_cons, hne]

theorem columns_without (hd : s.names.Nodup) {place : Nat} (hplace : s.names.idxOf name = place)
    (h : ∀ f ∈ before ++ after, f.1 ≠ some name) (v : Json) : s.columns (.object (before ++ after)) =
      (s.columns (.object (before ++ (some name, v) :: after))).map fun columns =>
        columns.set place none := by
  have hfield : s.field name (.object (before ++ after)) = none := by
    apply List.lookup_eq_none_iff.2
    intro f hf
    rw [bne_iff_ne]
    exact (h f hf).symm
  rw [← hfield, ← hplace]
  apply columns_of_others hd (isRecord_without_iff h v)
  intro other hother
  exact (field_object_of_ne hother v).symm

end

/-- A record without one of its values, which stands at this place if the record is an array. -/
inductive Slot (place : Nat) where
  | object (before after : List (Option String × Json))
  | array (before after : List Json) (h : before.length = place)

namespace Slot

variable {place : Nat}

/-- The record with the value, under this name if it is an object. -/
def fill (name : String) (v : Json) : Slot place → Json
  | object before after => .object (before ++ (some name, v) :: after)
  | array before after _ => .array (before ++ v :: after)

variable {r : Slot place}

theorem isRecord_fill (h : s.IsRecord (r.fill name v)) (w : Json) : s.IsRecord (r.fill name w) := by
  cases r with
  | object before after =>
      rw [fill, isRecord_object_iff, List.map_append, List.map_cons] at h ⊢
      exact h
  | array before after hplace =>
      cases h with
      | array hneeded hlength => exact .array (by simpa using hneeded) (by simpa using hlength)

theorem field_fill (hname : name ∈ s.names) (hplace : s.names.idxOf name = place)
    (h : s.IsRecord (r.fill name v)) : s.field name (r.fill name v) = some v := by
  cases r with
  | object before after =>
      rw [fill, isRecord_object_iff] at h
      exact lookup_of_mem (by simp) (h.2 name hname)
  | array before after hbefore =>
      rw [fill, Shape.field, hplace, ← hbefore, List.getElem?_append_right (Nat.le_refl _),
        Nat.sub_self, List.getElem?_cons_zero]

theorem field_fill_of_ne (hname : name ∈ s.names) (hplace : s.names.idxOf name = place)
    (hother : other ≠ name) (v w : Json) :
    s.field other (r.fill name v) = s.field other (r.fill name w) := by
  cases r with
  | object before after => rw [fill, fill, field_object_of_ne hother, field_object_of_ne hother]
  | array before after hbefore =>
      have hapart : s.names.idxOf other ≠ before.length := by
        rw [hbefore, ← hplace]
        intro hsame
        exact hother ((List.idxOf_inj hname).1 hsame.symm).symm
      have hset : before ++ v :: after = (before ++ w :: after).set before.length v := by
        rw [List.set_append_right _ _ (Nat.le_refl _), Nat.sub_self, List.set_cons_zero]
      simp only [fill, Shape.field]
      rw [hset, List.getElem?_set_ne hapart.symm]

theorem columns_fill (hd : s.names.Nodup) (hname : name ∈ s.names)
    (hplace : s.names.idxOf name = place) (v w : Json) : s.columns (r.fill name v) =
      (s.columns (r.fill name w)).map fun columns => columns.set place (some v) := by
  have hrecord : s.IsRecord (r.fill name v) ↔ s.IsRecord (r.fill name w) :=
    ⟨fun h => isRecord_fill h w, fun h => isRecord_fill h v⟩
  rw [columns_of_others hd hrecord fun other hother => field_fill_of_ne hname hplace hother v w,
    hplace]
  refine Option.map_congr fun columns hcolumns => ?_
  rw [field_fill hname hplace (hrecord.2 (isRecord_of_columns hcolumns))]

end Slot

end RelayGate.Json
