import RelayGate.Json.Value
import RelayGate.KeyMap
import RelayGate.Text.Base64

/-!
Records in JSON: an object with one field per name, or an array with the values in the order of the
names. Fields of other names are passed over.
-/

namespace RelayGate.Json

/-- The field names of a record in order. In an array, the values after the first `needed` may be
left out. -/
structure Shape where
  names : List String
  needed : Nat

/-- The value of a name that occurs at most once; `some none` if it does not occur. -/
def onlyField (fields : List (Option String × Json)) (name : String) : Option (Option Json) :=
  match fields.filter (·.1 == some name) with
  | [] => some none
  | [f] => some (some f.2)
  | _ => none

def Shape.columns (s : Shape) : Json → Option (List (Option Json))
  | .object fields =>
    if fields.all (·.1.isSome) then s.names.mapM (onlyField fields) else none
  | .array vs =>
    if s.needed ≤ vs.length ∧ vs.length ≤ s.names.length then
      some (vs.map some ++ List.replicate (s.names.length - vs.length) none)
    else none
  | _ => none

variable {α : Type}

def required (f : Json → Option α) : Option Json → Option α
  | none => none
  | some v => f v

def optional (f : Json → Option α) : Option Json → Option (Option α)
  | none => some none
  | some .null => some none
  | some v => (f v).map some

/-- A field that may be missing, but not null. -/
def orElse (a : α) (f : Json → Option α) : Option Json → Option α
  | none => some a
  | some v => f v

/-- One of the named values, as the name alone or as an object of that name with null. -/
def named? (names : List (String × α)) : Json → Option α
  | .string (some s) => names.lookup s
  | .object [(some s, .null)] => names.lookup s
  | _ => none

def textField? (f : Option String × Json) : Option (String × String) := do
  let k ← f.1
  let v ← f.2.text?
  return (k, v)

def textMap? : Json → Option (KeyMap String)
  | .object fields => (fields.mapM textField?).map KeyMap.ofList
  | _ => none

def ofTextMap (m : KeyMap String) : Json := record (m.entries.map fun e => (e.1, ofText e.2))

def base64? (v : Json) : Option Bytes := v.text?.bind Text.ofBase64?

def ofBase64 (bs : Bytes) : Json := ofText (Text.base64 bs)

end RelayGate.Json
