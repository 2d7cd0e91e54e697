import RelayGate.Json.Record
import RelayGate.Proofs.KeyMap
import RelayGate.Proofs.Json.Value
import RelayGate.Proofs.Binary64
import RelayGate.Proofs.Text.Base64

namespace RelayGate.Json

variable {α β : Type}

theorem mapM_eq_some_map {f : α → Option β} {g : α → β} {as : List α}
    (h : ∀ a ∈ as, f a = some (g a)) : as.mapM f = some (as.map g) := by
  induction as with
  | nil => rfl
  | cons a as ih =>
      have hs : as.mapM f = some (as.map g) := ih fun x hx => h x (List.mem_cons_of_mem a hx)
      rw [List.mapM_cons, h a List.mem_cons_self, hs]
      rfl

theorem mapM_comp_eq_some {f : β → Option α} {g : α → β} {as : List α}
    (h : ∀ a ∈ as, f (g a) = some a) : as.mapM (f ∘ g) = some as := by
  rw [mapM_eq_some_map (f := f ∘ g) (g := id) h, List.map_id]

theorem onlyField_record {fields : List (String × Json)} (hn : (fields.map Prod.fst).Nodup)
    {f : String × Json} (hf : f ∈ fields) :
    onlyField (fields.map fun f => (some f.1, f.2)) f.1 = some (some f.2) := by
  have h : (fields.map fun f => (some f.1, f.2)).filter (·.1 == some f.1) = [(some f.1, f.2)] := by
    induction fields with
    | nil => exact absurd hf List.not_mem_nil
    | cons g gs ih =>
        obtain ⟨hg, hgs⟩ := List.nodup_cons.1 hn
        rcases List.mem_cons.1 hf with rfl | hmem
        · have hrest : (gs.map fun f => (some f.1, f.2)).filter (·.1 == some f.1) = [] := by
            apply List.filter_eq_nil_iff.2
            intro x hx
            obtain ⟨y, hy, rfl⟩ := List.mem_map.1 hx
            have hne : y.1 ≠ f.1 := fun he => hg (he ▸ List.mem_map_of_mem hy)
            simpa using hne
          rw [List.map_cons, List.filter_cons_of_pos (by simp), hrest]
        · have hne : g.1 ≠ f.1 := fun he => hg (he ▸ List.mem_map_of_mem hmem)
          rw [List.map_cons, List.filter_cons_of_neg (by simpa using hne), ih hgs hmem]
  rw [onlyField, h]

theorem columns_record {s : Shape} {fields : List (String × Json)}
    (hn : fields.map Prod.fst = s.names) (hd : s.names.Nodup) :
    s.columns (record fields) = some (fields.map fun f => some f.2) := by
  have hall : (fields.map fun f => (some f.1, f.2)).all (·.1.isSome) = true := by simp
  rw [record, Shape.columns, if_pos hall, ← hn, List.mapM_map]
  apply mapM_eq_some_map
  intro f hf
  exact onlyField_record (hn ▸ hd) hf

@[simp] theorem text?_ofText (s : String) : text? (ofText s) = some s := rfl

@[simp] theorem bool?_bool (b : Bool) : bool? (.bool b) = some b := rfl

theorem nat?_ofNat {bound n : Nat} (h : n < bound) : nat? bound (ofNat n) = some n := by
  have hn : (Numeral.ofNat n).toNat? = some n := rfl
  change (Numeral.ofNat n).toNat?.filter (· < bound) = some n
  rw [hn, Option.filter_some, if_pos (by simpa using h)]

@[simp] theorem uint16?_ofNat (n : UInt16) : uint16? (ofNat n.toNat) = some n := by
  rw [uint16?, nat?_ofNat n.toNat_lt, Option.map_some, UInt16.ofNat_toNat]

@[simp] theorem uint32?_ofNat (n : UInt32) : uint32? (ofNat n.toNat) = some n := by
  rw [uint32?, nat?_ofNat n.toNat_lt, Option.map_some, UInt32.ofNat_toNat]

@[simp] theorem uint64?_ofNat (n : UInt64) : uint64? (ofNat n.toNat) = some n := by
  rw [uint64?, nat?_ofNat n.toNat_lt, Option.map_some, UInt64.ofNat_toNat]

theorem binary64?_ofBinary64 {x : Binary64} (h : x.isFinite) : binary64? (ofBinary64 x) = some x := by
  rw [ofBinary64, if_pos h, binary64?, Binary64.ofNumeral_toNumeral h]

theorem list?_array {f : Json → Option α} {g : α → Json} {as : List α}
    (h : ∀ a ∈ as, f (g a) = some a) : list? f (.array (as.map g)) = some as := by
  rw [list?, List.mapM_map, mapM_comp_eq_some h]

@[simp] theorem list?_ofTexts (ss : List String) : list? text? (ofTexts ss) = some ss :=
  list?_array fun s _ => text?_ofText s

@[simp] theorem textMap?_ofTextMap (m : KeyMap String) : textMap? (ofTextMap m) = some m := by
  have h : (m.entries.map fun e => (some e.1, ofText e.2)).mapM textField? = some m.entries := by
    rw [List.mapM_map]
    apply mapM_comp_eq_some
    intro e _
    rfl
  rw [ofTextMap, record, List.map_map]
  change ((m.entries.map fun e => (some e.1, ofText e.2)).mapM textField?).map KeyMap.ofList = some m
  rw [h, Option.map_some, KeyMap.ofList_entries]

@[simp] theorem base64?_ofBase64 (bs : Bytes) : base64? (ofBase64 bs) = some bs := by
  rw [ofBase64, base64?, text?_ofText, Option.bind_some, Text.ofBase64?_base64]

@[simp] theorem required_some (f : Json → Option α) (v : Json) : required f (some v) = f v := rfl

theorem exists_of_required {f : Json → Option α} {c : Option Json} {a : α}
    (h : required f c = some a) : ∃ v, f v = some a := by
  cases c with
  | none => exact absurd h (by simp [required])
  | some v => exact ⟨v, h⟩

theorem isFinite_of_binary64? {v : Json} {x : Binary64} (h : binary64? v = some x) : x.isFinite := by
  cases v with
  | number n => exact Binary64.isFinite_of_ofNumeral h
  | _ => exact absurd h (by simp [binary64?])

theorem exists_of_list? {f : Json → Option α} {v : Json} {as : List α} (h : list? f v = some as) :
    ∀ a ∈ as, ∃ w, f w = some a := by
  cases v with
  | array vs =>
      rw [list?] at h
      induction vs generalizing as with
      | nil =>
          obtain rfl := Option.some.inj h
          intro a ha
          exact absurd ha List.not_mem_nil
      | cons w vs ih =>
          rw [List.mapM_cons] at h
          obtain ⟨b, hb, h⟩ := Option.bind_eq_some_iff.1 h
          obtain ⟨bs, hbs, h⟩ := Option.bind_eq_some_iff.1 h
          obtain rfl := Option.some.inj h
          intro a ha
          rcases List.mem_cons.1 ha with rfl | hmem
          · exact ⟨w, hb⟩
          · exact ih hbs a hmem
  | _ => exact absurd h (by simp [list?])

end RelayGate.Json
