/-!
Finite maps from names to values, kept in ascending order of the names: two maps with the same
content are equal.
-/

namespace RelayGate

structure KeyMap (α : Type) where
  entries : List (String × α)
  ascending : entries.Pairwise fun a b => a.1 < b.1

namespace KeyMap

variable {α : Type}

instance [DecidableEq α] : DecidableEq (KeyMap α) := fun a b =>
  decidable_of_iff (a.entries = b.entries) <| by cases a; cases b; simp

def empty : KeyMap α := ⟨[], .nil⟩

instance : Inhabited (KeyMap α) := ⟨empty⟩

def insertEntry (k : String) (v : α) : List (String × α) → List (String × α)
  | [] => [(k, v)]
  | e :: es =>
    if k < e.1 then (k, v) :: e :: es
    else if k = e.1 then (k, v) :: es
    else e :: insertEntry k v es

theorem mem_insertEntry {k : String} {v : α} {x : String × α} {es : List (String × α)}
    (h : x ∈ insertEntry k v es) : x = (k, v) ∨ x ∈ es := by
  induction es with
  | nil => simpa [insertEntry] using h
  | cons e es ih =>
    simp only [insertEntry] at h
    split at h
    · simpa using h
    · split at h
      · simp only [List.mem_cons] at h ⊢
        exact h.imp_right .inr
      · simp only [List.mem_cons] at h ⊢
        rcases h with h | h
        · exact .inr (.inl h)
        · exact (ih h).imp_right .inr

theorem pairwise_insertEntry {k : String} {v : α} {es : List (String × α)}
    (h : es.Pairwise fun a b => a.1 < b.1) :
    (insertEntry k v es).Pairwise fun a b => a.1 < b.1 := by
  induction es with
  | nil => simp [insertEntry]
  | cons e es ih =>
    obtain ⟨he, hes⟩ := List.pairwise_cons.1 h
    simp only [insertEntry]
    split
    · next hk =>
      refine List.pairwise_cons.2 ⟨fun x hx => ?_, h⟩
      rcases List.mem_cons.1 hx with rfl | hx
      · exact hk
      · exact String.lt_trans hk (he x hx)
    · next hk =>
      split
      · next heq => exact List.pairwise_cons.2 ⟨fun x hx => heq ▸ he x hx, hes⟩
      · next hne =>
        refine List.pairwise_cons.2 ⟨fun x hx => ?_, ih hes⟩
        rcases mem_insertEntry hx with rfl | hx
        · exact Decidable.byContradiction fun hlt =>
            hne (String.le_antisymm (String.not_lt.1 hlt) (String.not_lt.1 hk))
        · exact he x hx

def insert (m : KeyMap α) (k : String) (v : α) : KeyMap α :=
  ⟨insertEntry k v m.entries, pairwise_insertEntry m.ascending⟩

/-- Of several values for one name the last one stays. -/
def ofList (es : List (String × α)) : KeyMap α := es.foldl (fun m e => m.insert e.1 e.2) empty

def get? (m : KeyMap α) (k : String) : Option α := m.entries.lookup k

def isEmpty (m : KeyMap α) : Bool := m.entries.isEmpty

end KeyMap

end RelayGate
