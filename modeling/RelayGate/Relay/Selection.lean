import RelayGate.Relay.Directory
import RelayGate.Relay.Region
import RelayGate.Trust.Verdict

namespace RelayGate

inductive DecoyPolicy where
  /-- Decoys only. -/
  | replace
  /-- Decoys and real relays, ranked together. -/
  | merge
deriving DecidableEq

namespace DecoyPolicy

def name : DecoyPolicy → String
  | replace => "replace"
  | merge => "merge"

/-- Blanks around the name and the case of ASCII letters do not count. The error is the text that
was compared. -/
def ofText? (s : String) : Except String DecoyPolicy :=
  match (Text.trim s).map Char.toLower with
  | "replace" => .ok .replace
  | "merge" => .ok .merge
  | other => .error other

end DecoyPolicy

/-- Endpoints at or above this load do not make a region available. -/
def overload : Binary64 := .ofRatio 9 10

def defaultLimit : Nat := 5

namespace Lookup

/-- A query that fails counts as one without an answer. -/
def isAvailable (l : Lookup) (region : String) : Bool :=
  match l.realIn region with
  | .ok es => es.any fun e => e.isActive && e.load.lt overload
  | .error _ => false

def firstAvailable (l : Lookup) : List String → Option String
  | [] => none
  | region :: regions =>
    if l.isAvailable region then some region else l.firstAvailable regions

/-- The region that a client names comes first, then those that it prefers, then those near the one
that it names, which is asked about once more. -/
def chooseRegion (l : Lookup) (explicit : String) (preferred : List String) : String :=
  if !explicit.isEmpty && l.isAvailable explicit then explicit
  else
    match l.firstAvailable preferred with
    | some region => region
    | none =>
      match l.firstAvailable (Region.adjacent explicit) with
      | some region => region
      | none => Region.fallback

end Lookup

def leastLoaded (es : List Endpoint) (limit : Nat) : List Endpoint :=
  (es.mergeSort fun a b => a.load.rank ≤ b.load.rank).take limit

namespace Lookup

def candidates (l : Lookup) (policy : DecoyPolicy) (region : String) (verdict : Option Verdict) :
    Except Directory.Error (List Endpoint) :=
  if needsDecoys verdict then
    match policy with
    | .replace => l.decoysIn region
    | .merge => do
      let decoys ← l.decoysIn region
      let real ← l.realIn region
      return decoys ++ real
  else l.realIn region

/-- A limit of zero stands for the default. -/
def choose (l : Lookup) (policy : DecoyPolicy) (region : String) (verdict : Option Verdict)
    (limit : Nat) : Except Directory.Error (List Endpoint) := do
  let es ← l.candidates policy region verdict
  return leastLoaded es (if limit = 0 then defaultLimit else limit)

end Lookup

/-- A reported load as it is stored: what is not a number counts as no load. -/
def storedLoad (load : Binary64) : Binary64 := if load.isNaN then .zero else load.clampToUnit

end RelayGate
