import RelayGate.Relay.Report

/-!
The directory: a table of endpoints in the order in which they first came, one row for each id, with
the samples of all reports.
-/

namespace RelayGate

inductive Directory.Error where
  | notFound (endpoint : String)
  | unavailable (detail : String)
deriving DecidableEq

def Directory.Error.message : Directory.Error → String
  | notFound endpoint => "endpoint not found: " ++ endpoint
  | unavailable detail => "directory unavailable: " ++ detail

structure Directory where
  rows : List Endpoint
  samples : List Sample
deriving DecidableEq

namespace Directory

def empty : Directory := ⟨[], []⟩

def get? (d : Directory) (id : String) : Option Endpoint := d.rows.find? (·.id == id)

def updateRow (f : Endpoint → Endpoint) (id : String) : List Endpoint → List Endpoint
  | [] => []
  | e :: es => if e.id = id then f e :: es else e :: updateRow f id es

/-- An endpoint whose id is present takes the place of that row. -/
def upsert (d : Directory) (e : Endpoint) : Directory :=
  match d.get? e.id with
  | some _ => { d with rows := updateRow (fun _ => e) e.id d.rows }
  | none => { d with rows := d.rows ++ [e] }

def maxReal : Nat := 100

def maxDecoys : Nat := 10

def realIn (d : Directory) (region : String) : List Endpoint :=
  (d.rows.filter fun e => e.region == region && e.isActive && !e.isDecoy).take maxReal

def decoysIn (d : Directory) (region : String) : List Endpoint :=
  (d.rows.filter fun e => e.region == region && e.isActive && e.isDecoy).take maxDecoys

def listed (d : Directory) : List Endpoint :=
  d.rows.filter fun e => (e.status == .active || e.status == .degraded) && !e.isDecoy

/-- Updates the row and keeps the sample; neither happens for an unknown endpoint. -/
def applyReport (d : Directory) (now : UInt64) (r : RelayReport) :
    Except Directory.Error Directory :=
  match d.get? r.endpoint with
  | none => .error (.notFound r.endpoint)
  | some _ => .ok {
      rows := updateRow (fun e => { e with status := r.status, users := r.users, lastSeen := some now })
        r.endpoint d.rows
      samples := d.samples ++ [r.sampleAt now] }

def usersAt (load : Binary64) (max : UInt32) : UInt32 :=
  UInt32.ofNat (min (load.clampToUnit.share max.toNat) max.toNat)

def withLoad (now : UInt64) (load : Binary64) (e : Endpoint) : Endpoint :=
  { e with
    users := match e.maxUsers with
      | some max => usersAt load max
      | none => e.users
    lastSeen := some now }

/-- Without a known capacity a load says nothing about the number of users. -/
def setLoad (d : Directory) (now : UInt64) (id : String) (load : Binary64) :
    Except Directory.Error Directory :=
  match d.get? id with
  | none => .error (.notFound id)
  | some _ => .ok { d with rows := updateRow (withLoad now load) id d.rows }

end Directory

structure Lookup where
  realIn : String → Except Directory.Error (List Endpoint)
  decoysIn : String → Except Directory.Error (List Endpoint)
  listed : Except Directory.Error (List Endpoint)

def Directory.lookup (d : Directory) : Lookup where
  realIn region := .ok (d.realIn region)
  decoysIn region := .ok (d.decoysIn region)
  listed := .ok d.listed

end RelayGate
