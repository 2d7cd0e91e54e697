import RelayGate.KeyMap
import RelayGate.Text.Alphanumeric
import RelayGate.Text.Blank
import RelayGate.Text.Decimal
import RelayGate.Text.Quoted
import RelayGate.Text.Uppercase

/-!
Staged rollout. Every client falls into one of a hundred buckets for a version and a region; the gate
lets in the buckets below a percentage, which overrides set for a version, a region, both or all.
-/

namespace RelayGate.Rollout

def hash (s : List Char) : Int64 := s.foldl (fun h c => h * 31 + Int64.ofNat c.toNat) 0

/-- The distance from zero. For the least number, too, it fits 64 bits without a sign. -/
def magnitude (h : Int64) : UInt64 := h.abs.toUInt64

def byte? (n : UInt64) : Option UInt8 := if n < 256 then some n.toUInt8 else none

/-- One of a hundred. A rest that is no byte counts as zero. -/
def bucket (client version region : String) : Nat :=
  let h := hash (client.toList ++ version.toList ++ region.toList)
  ((byte? (magnitude h % 100)).getD 0).toNat

def base : String := "KESTREL_ROLLOUT_PERCENTAGE"

/-- The form that a version or region takes in the name of a scope: letters and numerals in upper
case, underscores for the rest, and none at the ends. -/
def normalForm (s : String) : String :=
  let mapped := s.toList.flatMap fun c => if Text.isAlphanumeric c then Text.upperChar c else ['_']
  String.ofList (Text.strip (· == '_') mapped)

def scopeName (parts : List String) : String := parts.foldl (fun n p => n ++ "_" ++ p) base

def isScope (name : String) : Bool :=
  name == base || (base ++ "_").toList.isPrefixOf name.toList

abbrev Percentage := Fin 101

def clamp (n : Int) : Percentage := ⟨min n.toNat 100, by omega⟩

structure Gate where
  overrides : KeyMap Percentage
deriving DecidableEq

inductive Error where
  | malformed (name value : String)
deriving DecidableEq

def Error.message : Error → String
  | malformed name value =>
    name ++ ": rollout percentage " ++ Text.quote value ++ " is not an integer"

namespace Gate

def full : Gate := ⟨.empty⟩

def isEmpty (g : Gate) : Bool := g.overrides.isEmpty

/-- Takes one variable: those that name no scope are passed over, and a later one replaces an earlier
one of the same scope. -/
def addVar (g : Gate) (var : String × String) : Except Error Gate :=
  let name := String.ofList (Text.upper var.1.toList)
  if isScope name then
    let value := Text.trim var.2
    match Text.readInt64 value with
    | some n => .ok ⟨g.overrides.insert name (clamp n)⟩
    | none => .error (.malformed name value)
  else .ok g

def ofVars (vars : List (String × String)) : Except Error Gate := vars.foldlM addVar full

def override (g : Gate) (version region : Option String) (percentage : Int) : Gate :=
  let parts := (version.toList ++ region.toList).map normalForm
  ⟨g.overrides.insert (scopeName parts) (clamp percentage)⟩

/-- The scopes that apply, the most specific one first. Parts without a normal form name no scope. -/
def scopesFor (version region : String) : List String :=
  let v := normalForm version
  let r := normalForm region
  let vs := if v.isEmpty then [] else [v]
  let rs := if r.isEmpty then [] else [r]
  (if vs.isEmpty || rs.isEmpty then [] else [scopeName (vs ++ rs)]) ++
    vs.map (fun v => scopeName [v]) ++ rs.map (fun r => scopeName [r]) ++ [scopeName []]

def percentage (g : Gate) (version region : String) : Percentage :=
  ((scopesFor version region).findSome? g.overrides.get?).getD 100

def includes (g : Gate) (client version region : String) : Bool :=
  bucket client version region < (g.percentage version region).val

end Gate

end RelayGate.Rollout
