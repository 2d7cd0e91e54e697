import Mathlib.Data.List.Count
import Mathlib.Data.List.Nodup
import RelayGate.Proofs.Json.Record

namespace RelayGate.Json

/-- A field that may be missing. Of a name that occurs more than once the first value is taken. -/
def Shape.field (s : Shape) (name : String) : Json → Option Json
  | .object fields => fields.lookup (some name)
  | .array vs => vs[s.names.idxOf name]?
  | _ => none

inductive Shape.IsRecord (s : Shape) : Json → Prop
  | object {fields : List (Option String × Json)} (hread : ∀ f ∈ fields, f.1.isSome = true)
      (honce : ∀ name ∈ s.names, (fields.map Prod.fst).count (some name) ≤ 1) :
      IsRecord s (.object fields)
  | array {vs : List Json} (hneeded : s.needed ≤ vs.length) (hlength : vs.length ≤ s.names.length) :
      IsRecord s (.array vs)

/-- What a field holds that may be missing or null: a text, or nothing. -/
def IsOptionalText (column : Option Json) : Option String → Prop
  | some s => column = some (.ofText s)
  | none => column = none ∨ column = some .null

theorem exists_of_mapM {α β : Type} {f : α → Option β} {as : List α} {bs : List β}
    (h : as.mapM f = some bs) : ∀ a ∈ as, ∃ b, f a = some b := by
  induction as generalizing bs with
  | nil =>
      intro a ha
      exact absurd ha List.not_mem_nil
  | cons a as ih =>
      rw [List.mapM_cons] at h
      obtain ⟨b, hb, h⟩ := Option.bind_eq_some_iff.1 h
      obtain ⟨bs, hbs, -⟩ := Option.bind_eq_some_iff.1 h
      intro x hx
      rcases List.mem_cons.1 hx with rfl | hmem
      · exact ⟨b, hb⟩
      · exact ih hbs x hmem

section

variable {fields : List (Option String × Json)} {name : String} {v : Json}

theorem lookup_eq_head?_filter (fields : List (Option String × Json)) (name : String) :
    fields.lookup (some name) = (fields.filter (·.1 == some name)).head?.map Prod.snd := by
  induction fields with
  | nil => rfl
  | cons f fs ih =>
      by_cases hf : f.1 = some name
      · rw [List.filter_cons_of_pos (by simpa using hf), List.lookup_cons, hf, beq_self_eq_true]
        rfl
      · rw [List.filter_cons_of_neg (by simpa using hf), ← ih, List.lookup_cons,
          beq_false_of_ne (Ne.symm hf)]

theorem count_eq_length_filter (fields : List (Option String × Json)) (name : String) :
    (fields.map Prod.fst).count (some name) = (fields.filter (·.1 == some name)).length := by
  rw [List.count, List.countP_map, List.countP_eq_length_filter]
  rfl

theorem onlyField_eq_some_iff {column : Option Json} : onlyField fields name = some column ↔
    (fields.map Prod.fst).count (some name) ≤ 1 ∧ column = fields.lookup (some name) := by
  rw [onlyField, count_eq_length_filter, lookup_eq_head?_filter]
  generalize fields.filter (·.1 == some name) = found
  rcases found with _ | ⟨f, _ | ⟨g, fs⟩⟩
  · simp [eq_comm]
  · simp [eq_comm]
  · simp

theorem lookup_of_mem (h : (some name, v) ∈ fields)
    (honce : (fields.map Prod.fst).count (some name) ≤ 1) : fields.lookup (some name) = some v := by
  have hmem : (some name, v) ∈ fields.filter (·.1 == some name) :=
    List.mem_filter.2 ⟨h, beq_self_eq_true _⟩
  rw [count_eq_length_filter] at honce
  rw [lookup_eq_head?_filter]
  obtain ⟨f, hf⟩ := List.length_eq_one_iff.1
    (Nat.le_antisymm honce (List.length_pos_of_mem hmem))
  rw [hf] at hmem ⊢
  rw [← List.mem_singleton.1 hmem]
  rfl

end

variable {s : Shape} {v : Json} {columns : List (Option Json)}

theorem columns_object {fields : List (Option String × Json)}
    (hread : ∀ f ∈ fields, f.1.isSome = true)
    (honce : ∀ name ∈ s.names, (fields.map Prod.fst).count (some name) ≤ 1) :
    s.columns (.object fields) = some (s.names.map (s.field · (.object fields))) := by
  rw [Shape.columns, if_pos (List.all_eq_true.2 hread)]
  apply mapM_eq_some_map
  intro name hname
  exact onlyField_eq_some_iff.2 ⟨honce name hname, rfl⟩

theorem columns_array (hd : s.names.Nodup) {vs : List Json} (hneeded : s.needed ≤ vs.length)
    (hlength : vs.length ≤ s.names.length) :
    s.columns (.array vs) = some (s.names.map (s.field · (.array vs))) := by
  rw [Shape.columns, if_pos ⟨hneeded, hlength⟩, Option.some.injEq]
  apply List.ext_getElem
  · simp [hlength]
  · intro n hn hn'
    have hname : n < s.names.length := by simpa using hn'
    rw [List.getElem_map, Shape.field, hd.idxOf_getElem n hname]
    by_cases hplace : n < vs.length
    · rw [List.getElem_append_left (by simpa using hplace), List.getElem_map,
        List.getElem?_eq_getElem hplace]
    · rw [List.getElem_append_right (by simpa using hplace), List.getElem_replicate,
        List.getElem?_eq_none (Nat.not_lt.1 hplace)]

theorem isRecord_of_columns (h : s.columns v = some columns) : s.IsRecord v := by
  cases v with
  | object fields =>
      rw [Shape.columns] at h
      split at h
      · next hall =>
          refine .object (List.all_eq_true.1 hall) ?_
          intro name hname
          obtain ⟨column, hcolumn⟩ := exists_of_mapM h name hname
          exact (onlyField_eq_some_iff.1 hcolumn).1
      · cases h
  | array vs =>
      rw [Shape.columns] at h
      split at h
      · next hlengths => exact .array hlengths.1 hlengths.2
      · cases h
  | null | bool | number | string => cases h

theorem columns_eq_some_iff (hd : s.names.Nodup) :
    s.columns v = some columns ↔ s.IsRecord v ∧ columns = s.names.map (s.field · v) := by
  have hcolumns (h : s.IsRecord v) : s.columns v = some (s.names.map (s.field · v)) := by
    cases h with
    | object hread honce => exact columns_object hread honce
    | array hneeded hlength => exact columns_array hd hneeded hlength
  constructor
  · intro h
    have hrecord := isRecord_of_columns h
    rw [hcolumns hrecord] at h
    exact ⟨hrecord, (Option.some.inj h).symm⟩
  · rintro ⟨hrecord, rfl⟩
    exact hcolumns hrecord

section

variable {written own others : List (String × Json)} {name : String}

theorem count_names_record (fields : List (String × Json)) (name : String) :
    ((fields.map fun f => (some f.1, f.2)).map Prod.fst).count (some name) =
      (fields.map Prod.fst).count name := by
  have hnames : (fields.map fun f => (some f.1, f.2)).map Prod.fst =
      (fields.map Prod.fst).map some := by
    rw [List.map_map, List.map_map]
    rfl
  rw [hnames, List.count_map_of_injective _ _ fun _ _ => Option.some.inj]

theorem count_names_of_perm (hwritten : written.Perm (own ++ others))
    (hothers : ∀ f ∈ others, f.1 ∉ s.names) (hname : name ∈ s.names) :
    (written.map Prod.fst).count name = (own.map Prod.fst).count name := by
  have hnone : name ∉ others.map Prod.fst := by
    intro hmem
    obtain ⟨f, hf, rfl⟩ := List.mem_map.1 hmem
    exact hothers f hf hname
  rw [(hwritten.map Prod.fst).count_eq, List.map_append, List.count_append,
    List.count_eq_zero_of_not_mem hnone, Nat.add_zero]

theorem isRecord_record (hwritten : written.Perm (own ++ others))
    (hothers : ∀ f ∈ others, f.1 ∉ s.names) (hown : (own.map Prod.fst).Nodup) :
    s.IsRecord (record written) := by
  refine .object ?_ ?_
  · intro f hf
    obtain ⟨g, -, rfl⟩ := List.mem_map.1 hf
    rfl
  · intro name hname
    rw [count_names_record, count_names_of_perm hwritten hothers hname]
    exact List.nodup_iff_count_le_one.1 hown name

theorem field_record_of_mem (hwritten : written.Perm (own ++ others))
    (hothers : ∀ f ∈ others, f.1 ∉ s.names) (hown : (own.map Prod.fst).Nodup)
    (hname : name ∈ s.names) (hmem : (name, v) ∈ own) :
    s.field name (record written) = some v := by
  apply lookup_of_mem
  · exact List.mem_map.2 ⟨(name, v), hwritten.mem_iff.2 (List.mem_append_left _ hmem), rfl⟩
  · rw [count_names_record, count_names_of_perm hwritten hothers hname]
    exact List.nodup_iff_count_le_one.1 hown name

theorem field_record_of_not_mem (hwritten : written.Perm (own ++ others))
    (hothers : ∀ f ∈ others, f.1 ∉ s.names) (hname : name ∈ s.names)
    (hnone : name ∉ own.map Prod.fst) : s.field name (record written) = none := by
  have hcount : (written.map Prod.fst).count name = 0 := by
    rw [count_names_of_perm hwritten hothers hname, List.count_eq_zero_of_not_mem hnone]
  rw [← count_names_record, List.count_eq_zero] at hcount
  apply List.lookup_eq_none_iff.2
  intro f hf
  rw [bne_iff_ne]
  rintro hsame
  exact hcount (hsame ▸ List.mem_map_of_mem hf)

end

theorem text?_eq_some_iff {text : String} : text? v = some text ↔ v = .ofText text := by
  cases v with
  | string t => simp [text?, ofText]
  | null | bool | number | array | object => simp [text?, ofText]

theorem required_text?_eq_some_iff {column : Option Json} {text : String} :
    required text? column = some text ↔ column = some (.ofText text) := by
  cases column with
  | none => simp [required]
  | some v => rw [required, text?_eq_some_iff, Option.some.injEq]

theorem optional_text?_eq_some_iff {column : Option Json} {text : Option String} :
    optional text? column = some text ↔ IsOptionalText column text := by
  cases column with
  | none => cases text <;> simp [optional, IsOptionalText]
  | some v =>
      cases v <;> cases text <;> simp [optional, IsOptionalText, text?, ofText]

theorem isOptionalText_record {α : Type} (f : α → Json) (g : α → String)
    (hf : ∀ a, f a = .ofText (g a)) {name : String} {column : Option (Option α)}
    {written own others : List (String × Json)} (hwritten : written.Perm (own ++ others))
    (hothers : ∀ f ∈ others, f.1 ∉ s.names) (hown : (own.map Prod.fst).Nodup) (hname : name ∈ s.names)
    (hmem : ∀ c, column = some c → (name, .ofOption f c) ∈ own)
    (hnone : column = none → name ∉ own.map Prod.fst) :
    IsOptionalText (s.field name (.record written)) (column.join.map g) := by
  cases column with
  | none => exact .inl (field_record_of_not_mem hwritten hothers hname (hnone rfl))
  | some c =>
      have hfield := field_record_of_mem hwritten hothers hown hname (hmem c rfl)
      cases c with
      | none => exact .inr hfield
      | some a => exact hfield.trans (congrArg some (hf a))

end RelayGate.Json
