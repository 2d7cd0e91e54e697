import Mathlib.Data.List.Induction
import Mathlib.Data.List.Nodup
import RelayGate.KeyMap

/-!
Finite maps and the lists they are made from. A map is told by its values, so that neither the order of
entries with different names nor any entry but the last one of its name makes a difference.
-/

namespace RelayGate.KeyMap

variable {α : Type}

theorem ext_entries {m n : KeyMap α} (h : m.entries = n.entries) : m = n := by
  cases m
  cases n
  obtain rfl := h
  rfl

theorem insertEntry_of_lt {k : String} (v : α) {es : List (String × α)} (h : ∀ e ∈ es, e.1 < k) :
    insertEntry k v es = es ++ [(k, v)] := by
  induction es with
  | nil => rfl
  | cons e es ih =>
      have he : e.1 < k := h e List.mem_cons_self
      have hlt : ¬ k < e.1 := String.lt_asymm he
      have hne : k ≠ e.1 := fun heq => String.lt_irrefl k (heq ▸ he)
      rw [insertEntry, if_neg hlt, if_neg hne, ih fun x hx => h x (List.mem_cons_of_mem e hx)]
      rfl

theorem entries_foldl_insert (es : List (String × α)) (m : KeyMap α)
    (h : (m.entries ++ es).Pairwise fun a b => a.1 < b.1) :
    (es.foldl (fun m e => m.insert e.1 e.2) m).entries = m.entries ++ es := by
  induction es generalizing m with
  | nil => simp
  | cons e es ih =>
      have hlast : ∀ x ∈ m.entries, x.1 < e.1 := fun x hx =>
        (List.pairwise_append.1 h).2.2 x hx e List.mem_cons_self
      have hi : (m.insert e.1 e.2).entries = m.entries ++ [e] := insertEntry_of_lt e.2 hlast
      rw [List.foldl_cons, ih, hi, List.append_assoc]
      · rfl
      · rw [hi, List.append_assoc]
        exact h

theorem entries_ofList {es : List (String × α)} (h : (es.map Prod.fst).Pairwise (· < ·)) :
    (ofList es).entries = es := entries_foldl_insert es empty (List.pairwise_map.1 h)

theorem ofList_entries (m : KeyMap α) : ofList m.entries = m := by
  apply ext_entries
  exact entries_ofList (List.pairwise_map.2 m.ascending)

/-! ### Lookup -/

theorem lookup_cons (e : String × α) (es : List (String × α)) (name : String) :
    (e :: es).lookup name = if name = e.1 then some e.2 else es.lookup name := by
  by_cases h : name = e.1
  · rw [if_pos h, List.lookup_cons, beq_iff_eq.2 h]
  · rw [if_neg h, List.lookup_cons, beq_eq_false_iff_ne.2 h]

theorem lookup_insertEntry (k : String) (v : α) (es : List (String × α)) (name : String) :
    (insertEntry k v es).lookup name = if name = k then some v else es.lookup name := by
  induction es with
  | nil => rw [insertEntry, lookup_cons]
  | cons e es ih =>
      rw [insertEntry]
      split
      · rw [lookup_cons]
      · split
        · next heq =>
            rw [lookup_cons, lookup_cons, ← heq]
            split <;> rfl
        · next hne =>
            rw [lookup_cons, lookup_cons, ih]
            by_cases h : name = k
            · rw [if_pos h, if_pos h, if_neg (h ▸ hne)]
            · rw [if_neg h, if_neg h]

theorem get?_insert (m : KeyMap α) (k : String) (v : α) (name : String) :
    (m.insert k v).get? name = if name = k then some v else m.get? name :=
  lookup_insertEntry k v m.entries name

theorem ofList_concat (es : List (String × α)) (e : String × α) :
    ofList (es ++ [e]) = (ofList es).insert e.1 e.2 := by
  rw [ofList, List.foldl_append]
  rfl

theorem get?_ofList (es : List (String × α)) (name : String) :
    (ofList es).get? name = es.reverse.lookup name := by
  induction es using List.reverseRecOn with
  | nil => rfl
  | append_singleton es e ih =>
      rw [ofList_concat, get?_insert, ih, List.reverse_append]
      exact (lookup_cons e es.reverse name).symm

/-! ### Maps with the same values -/

theorem lookup_eq_some_iff {κ β : Type} [DecidableEq κ] {es : List (κ × β)}
    (h : (es.map Prod.fst).Nodup) {k : κ} {v : β} : es.lookup k = some v ↔ (k, v) ∈ es := by
  induction es with
  | nil => simp
  | cons e es ih =>
      obtain ⟨hfresh, hes⟩ := List.nodup_cons.1 h
      rw [List.mem_cons]
      by_cases hk : k = e.1
      · subst hk
        have hnot : (e.1, v) ∉ es := fun hmem => hfresh (List.mem_map.2 ⟨_, hmem, rfl⟩)
        rw [List.lookup_cons, beq_self_eq_true, Option.some.injEq]
        simp [hnot, Prod.ext_iff, eq_comm]
      · have hne : (k, v) ≠ e := fun heq => hk (congrArg Prod.fst heq)
        rw [List.lookup_cons, beq_eq_false_iff_ne.2 hk, ih hes]
        simp [hne]

theorem lookup_perm {κ β : Type} [DecidableEq κ] {es fs : List (κ × β)} (hperm : es.Perm fs)
    (h : (es.map Prod.fst).Nodup) (k : κ) : es.lookup k = fs.lookup k := by
  have hf : (fs.map Prod.fst).Nodup := (hperm.map Prod.fst).nodup_iff.1 h
  apply Option.ext
  intro v
  rw [lookup_eq_some_iff h, lookup_eq_some_iff hf, hperm.mem_iff]

theorem nodup_names (m : KeyMap α) : (m.entries.map Prod.fst).Nodup := by
  apply List.pairwise_map.2
  refine m.ascending.imp ?_
  intro a b hlt heq
  exact String.lt_irrefl b.1 (heq ▸ hlt)

theorem ext_get? {m n : KeyMap α} (h : ∀ name, m.get? name = n.get? name) : m = n := by
  have hmem : ∀ e, e ∈ m.entries ↔ e ∈ n.entries := by
    rintro ⟨name, v⟩
    rw [← lookup_eq_some_iff m.nodup_names, ← lookup_eq_some_iff n.nodup_names]
    exact Eq.congr_left (h name)
  have hperm : m.entries.Perm n.entries :=
    (List.perm_ext_iff_of_nodup (.of_map Prod.fst m.nodup_names)
      (.of_map Prod.fst n.nodup_names)).2 hmem
  apply ext_entries
  refine List.Perm.eq_of_pairwise ?_ m.ascending n.ascending hperm
  intro a b _ _ hab hba
  exact absurd hba (String.lt_asymm hab)

theorem insert_comm (m : KeyMap α) {j k : String} (h : j ≠ k) (v w : α) :
    (m.insert j v).insert k w = (m.insert k w).insert j v := by
  apply ext_get?
  intro name
  simp only [get?_insert]
  by_cases hk : name = k
  · rw [if_pos hk, if_neg (hk ▸ h.symm), if_pos hk]
  · rw [if_neg hk, if_neg hk]

theorem ofList_perm {es fs : List (String × α)} (hperm : es.Perm fs)
    (h : (es.map Prod.fst).Nodup) : ofList es = ofList fs := by
  apply hperm.foldl_eq'
  intro e he f hf m
  by_cases hname : e.1 = f.1
  · obtain rfl : e = f := List.inj_on_of_nodup_map h he hf hname
    rfl
  · exact m.insert_comm hname e.2 f.2

theorem get?_ofList_of_nodup {es : List (String × α)} (h : (es.map Prod.fst).Nodup)
    (name : String) : (ofList es).get? name = es.lookup name := by
  rw [get?_ofList, lookup_perm es.reverse_perm ((es.reverse_perm.map Prod.fst).nodup_iff.2 h)]

/-! ### Repeated names -/

/-- Of the entries of each name the last one. -/
def lastOnly : List (String × α) → List (String × α)
  | [] => []
  | e :: es => if e.1 ∈ es.map Prod.fst then lastOnly es else e :: lastOnly es

theorem lastOnly_sublist (es : List (String × α)) : (lastOnly es).Sublist es := by
  induction es with
  | nil => exact .slnil
  | cons e es ih =>
      rw [lastOnly]
      split
      · exact ih.cons e
      · exact ih.cons_cons e

theorem nodup_lastOnly (es : List (String × α)) : ((lastOnly es).map Prod.fst).Nodup := by
  induction es with
  | nil => exact List.nodup_nil
  | cons e es ih =>
      rw [lastOnly]
      split
      · exact ih
      · next hlast =>
          have hfresh : e.1 ∉ (lastOnly es).map Prod.fst := fun hmem =>
            hlast (((lastOnly_sublist es).map Prod.fst).mem hmem)
          exact List.nodup_cons.2 ⟨hfresh, ih⟩

theorem mem_lastOnly_iff {es : List (String × α)} {e : String × α} :
    e ∈ lastOnly es ↔ ∃ before after, es = before ++ e :: after ∧ e.1 ∉ after.map Prod.fst := by
  induction es with
  | nil => simp [lastOnly]
  | cons d es ih =>
      -- Either the entry is the first one, or there is at least one entry before it.
      have hsplit : (∃ before after, d :: es = before ++ e :: after ∧ e.1 ∉ after.map Prod.fst) ↔
          e = d ∧ d.1 ∉ es.map Prod.fst ∨ e ∈ lastOnly es := by
        rw [ih]
        constructor
        · rintro ⟨before, after, hes, hlast⟩
          rcases List.cons_eq_append_iff.1 hes with ⟨rfl, hes⟩ | ⟨before, rfl, rfl⟩
          · obtain ⟨rfl, rfl⟩ := List.cons.inj hes
            exact .inl ⟨rfl, hlast⟩
          · exact .inr ⟨before, after, rfl, hlast⟩
        · rintro (⟨rfl, hlast⟩ | ⟨before, after, rfl, hlast⟩)
          · exact ⟨[], es, rfl, hlast⟩
          · exact ⟨d :: before, after, rfl, hlast⟩
      rw [hsplit, lastOnly]
      split
      · next hlater => simp [hlater]
      · next hlast => simp [hlast]

theorem lookup_reverse_lastOnly (es : List (String × α)) (name : String) :
    (lastOnly es).reverse.lookup name = es.reverse.lookup name := by
  induction es with
  | nil => rfl
  | cons e es ih =>
      have hcons (es : List (String × α)) : (e :: es).reverse.lookup name =
          (es.reverse.lookup name).or (if name = e.1 then some e.2 else none) := by
        rw [List.reverse_cons, List.lookup_append, lookup_cons, List.lookup_nil]
      rw [lastOnly]
      split
      · next hlater =>
          obtain ⟨later, hmem, hname⟩ := List.mem_map.1 hlater
          rw [hcons, ih]
          by_cases h : name = e.1
          · have hsame : name = later.1 := h.trans hname.symm
            have hgiven : (es.reverse.lookup name).isSome = true :=
              List.lookup_isSome_iff.2 ⟨later, List.mem_reverse.2 hmem, beq_iff_eq.2 hsame⟩
            rw [Option.or_of_isSome hgiven]
          · rw [if_neg h, Option.or_none]
      · rw [hcons, hcons, ih]

theorem ofList_lastOnly (es : List (String × α)) : ofList (lastOnly es) = ofList es := by
  apply ext_get?
  intro name
  rw [get?_ofList, get?_ofList, lookup_reverse_lastOnly]

/-! ### Search in the order of the names -/

theorem mem_entries_iff {m : KeyMap α} {name : String} {v : α} :
    (name, v) ∈ m.entries ↔ m.get? name = some v :=
  (lookup_eq_some_iff m.nodup_names).symm

theorem findSome?_entries_eq_none_iff {β : Type} {m : KeyMap α} {f : String × α → Option β} :
    m.entries.findSome? f = none ↔ ∀ name v, m.get? name = some v → f (name, v) = none := by
  rw [List.findSome?_eq_none_iff]
  constructor
  · intro h name v hv
    exact h _ (mem_entries_iff.2 hv)
  · rintro h ⟨name, v⟩ hmem
    exact h name v (mem_entries_iff.1 hmem)

theorem findSome?_eq_some_iff_of_pairwise {κ β : Type} {r : κ → κ → Prop}
    (hr : ∀ a b, r a b → ¬ r b a) {es : List κ} (h : es.Pairwise r) {f : κ → Option β} {b : β} :
    es.findSome? f = some b ↔ ∃ e ∈ es, f e = some b ∧ ∀ e' ∈ es, r e' e → f e' = none := by
  rw [List.findSome?_eq_some_iff]
  constructor
  · rintro ⟨before, e, after, rfl, hfound, hbefore⟩
    refine ⟨e, by simp, hfound, ?_⟩
    intro e' hmem hahead
    rcases List.mem_append.1 hmem with hearlier | hlater
    · exact hbefore e' hearlier
    · -- From the entry on that was found, none comes before it.
      rcases List.mem_cons.1 hlater with rfl | hlater
      · exact absurd hahead (hr _ _ hahead)
      · have hrest := (List.pairwise_append.1 h).2.1
        exact absurd hahead (hr _ _ ((List.pairwise_cons.1 hrest).1 e' hlater))
  · rintro ⟨e, hmem, hfound, hbefore⟩
    obtain ⟨before, after, rfl⟩ := List.append_of_mem hmem
    refine ⟨before, e, after, rfl, hfound, ?_⟩
    intro e' hearlier
    apply hbefore e' (List.mem_append_left _ hearlier)
    exact (List.pairwise_append.1 h).2.2 e' hearlier e List.mem_cons_self

theorem findSome?_entries_eq_some_iff {β : Type} {m : KeyMap α} {f : String × α → Option β} {b : β} :
    m.entries.findSome? f = some b ↔ ∃ name v, m.get? name = some v ∧ f (name, v) = some b ∧
      ∀ name' v', m.get? name' = some v' → name' < name → f (name', v') = none := by
  rw [findSome?_eq_some_iff_of_pairwise (fun _ _ => String.lt_asymm) m.ascending]
  simp only [Prod.exists, Prod.forall, mem_entries_iff]

/-- The last of the entries that make one for a name is the one that stays. -/
theorem get?_ofList_filterMap_eq_some_iff {β : Type} {m : KeyMap α}
    {f : String × α → Option (String × β)} {key : String} {b : β} :
    (ofList (m.entries.filterMap f)).get? key = some b ↔
      ∃ name v, m.get? name = some v ∧ f (name, v) = some (key, b) ∧
        ∀ name' v' b', m.get? name' = some v' → f (name', v') = some (key, b') → name' ≤ name := by
  have hbackward := List.pairwise_reverse.2 m.ascending
  rw [get?_ofList, ← List.filterMap_reverse, List.lookup_eq_findSome?, ← List.head?_filterMap,
    List.filterMap_filterMap, List.head?_filterMap,
    findSome?_eq_some_iff_of_pairwise (fun _ _ => String.lt_asymm) hbackward]
  have hmakes (e : String × α) (b : β) : ((f e).bind fun made =>
      if (key == made.1) = true then some made.2 else none) = some b ↔ f e = some (key, b) := by
    rw [Option.bind_eq_some_iff]
    constructor
    · rintro ⟨made, hmade, hvalue⟩
      obtain ⟨hkey, hvalue⟩ := Option.ite_none_right_eq_some.1 hvalue
      rw [hmade, eq_of_beq hkey, ← Option.some.inj hvalue]
    · intro hmade
      exact ⟨_, hmade, if_pos (beq_self_eq_true key)⟩
  simp only [List.mem_reverse, Prod.exists, Prod.forall, mem_entries_iff, hmakes,
    Option.eq_none_iff_forall_ne_some, ne_eq, ← String.not_lt]
  refine exists₂_congr fun name v => and_congr_right fun _ => and_congr_right fun _ => ?_
  constructor
  · intro h name' v' b' hv' hmade hlt
    exact h name' v' hv' hlt b' hmade
  · intro h name' v' hv' hlt b' hmade
    exact h name' v' b' hv' hmade hlt

/-! ### Dropped names -/

theorem lookup_filter_name (keep : String → Bool) (es : List (String × α)) (name : String) :
    (es.filter fun e => keep e.1).lookup name = if keep name then es.lookup name else none := by
  induction es with
  | nil => rw [List.filter_nil, List.lookup_nil, ite_self]
  | cons e es ih =>
      rw [List.filter_cons, lookup_cons e es]
      by_cases hname : name = e.1
      · subst hname
        by_cases hkeep : keep e.1 = true
        · rw [if_pos hkeep, if_pos hkeep, lookup_cons, if_pos rfl, if_pos rfl]
        · rw [if_neg hkeep, ih, if_neg hkeep, if_neg hkeep]
      · rw [if_neg hname, ← ih]
        split
        · rw [lookup_cons, if_neg hname]
        · rfl

theorem get?_ofList_filter_name (keep : String → Bool) (es : List (String × α)) (name : String) :
    (ofList (es.filter fun e => keep e.1)).get? name =
      if keep name then (ofList es).get? name else none := by
  rw [get?_ofList, get?_ofList, ← List.filter_reverse, lookup_filter_name]

theorem entries_ofList_filter_name (keep : String → Bool) (es : List (String × α)) :
    (ofList (es.filter fun e => keep e.1)).entries =
      (ofList es).entries.filter fun e => keep e.1 := by
  let kept : KeyMap α :=
    ⟨(ofList es).entries.filter fun e => keep e.1, (ofList es).ascending.filter _⟩
  have hsame : ofList (es.filter fun e => keep e.1) = kept := by
    apply ext_get?
    intro name
    rw [get?_ofList_filter_name]
    exact (lookup_filter_name keep (ofList es).entries name).symm
  exact congrArg KeyMap.entries hsame

/-! ### Dropped values -/

theorem nodup_filter {κ β : Type} {es : List (κ × β)} (h : (es.map Prod.fst).Nodup)
    (keep : κ × β → Bool) : ((es.filter keep).map Prod.fst).Nodup :=
  h.sublist (List.filter_sublist.map Prod.fst)

theorem lookup_filter {κ β : Type} [DecidableEq κ] {es : List (κ × β)} (h : (es.map Prod.fst).Nodup)
    (keep : β → Bool) (k : κ) :
    (es.filter fun e => keep e.2).lookup k = (es.lookup k).filter keep := by
  apply Option.ext
  intro v
  rw [lookup_eq_some_iff (nodup_filter h _), List.mem_filter, Option.filter_eq_some_iff, lookup_eq_some_iff h]

theorem get?_ofList_filter {es : List (String × α)} (h : (es.map Prod.fst).Nodup) (keep : α → Bool)
    (name : String) :
    (ofList (es.filter fun e => keep e.2)).get? name = ((ofList es).get? name).filter keep := by
  rw [get?_ofList_of_nodup (nodup_filter h _), get?_ofList_of_nodup h, lookup_filter h]

theorem entries_ofList_filter {es : List (String × α)} (h : (es.map Prod.fst).Nodup)
    (keep : α → Bool) :
    (ofList (es.filter fun e => keep e.2)).entries =
      (ofList es).entries.filter fun e => keep e.2 := by
  let kept : KeyMap α :=
    ⟨(ofList es).entries.filter fun e => keep e.2, (ofList es).ascending.filter _⟩
  have hsame : ofList (es.filter fun e => keep e.2) = kept := by
    apply ext_get?
    intro name
    rw [get?_ofList_filter h]
    exact (lookup_filter (ofList es).nodup_names keep name).symm
  exact congrArg KeyMap.entries hsame

end RelayGate.KeyMap
