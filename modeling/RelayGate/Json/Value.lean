import RelayGate.Json.Token
import RelayGate.Binary64

/-!
JSON values. Objects keep the order of their fields and repeated names; a text is read by a machine
that takes one token at a time and keeps the brackets that are still open, so that no depth of
nesting is too much for it.
-/

namespace RelayGate

inductive Json where
  | null
  | bool (b : Bool)
  | number (n : Numeral)
  | string (text : Option String)
  | array (items : List Json)
  | object (fields : List (Option String × Json))

namespace Json

instance : Inhabited Json := ⟨.null⟩

mutual

def tokens : Json → List Token
  | .null => [.null]
  | .bool b => [.bool b]
  | .number n => [.number n]
  | .string s => [.string s]
  | .array [] => [.openArray, .closeArray]
  | .array (v :: vs) => .openArray :: tokens v ++ itemTokens vs
  | .object [] => [.openObject, .closeObject]
  | .object ((k, v) :: fs) => .openObject :: .string k :: .colon :: tokens v ++ fieldTokens fs

def itemTokens : List Json → List Token
  | [] => [.closeArray]
  | v :: vs => .comma :: tokens v ++ itemTokens vs

def fieldTokens : List (Option String × Json) → List Token
  | [] => [.closeObject]
  | (k, v) :: fs => .comma :: .string k :: .colon :: tokens v ++ fieldTokens fs

end

def render (v : Json) : List Char := v.tokens.flatMap Token.render

def toText (v : Json) : String := String.ofList v.render

/-- An open bracket with what stands in it so far, the newest first. -/
inductive Frame where
  | array (items : List Json)
  | object (fields : List (Option String × Json)) (name : Option String)

/-- What has been read last inside the innermost open bracket. -/
inductive Position where
  | value
  | arrayStart
  | objectStart
  | name (fields : List (Option String × Json))
  | colon (fields : List (Option String × Json)) (name : Option String)
  | done (v : Json)

abbrev Reading := Position × List Frame

def beginValue (stack : List Frame) : Token → Option Reading
  | .null => some (.done .null, stack)
  | .bool b => some (.done (.bool b), stack)
  | .number n => some (.done (.number n), stack)
  | .string s => some (.done (.string s), stack)
  | .openArray => some (.arrayStart, stack)
  | .openObject => some (.objectStart, stack)
  | _ => none

def afterValue (v : Json) : List Frame → Token → Option Reading
  | .array vs :: stack, .comma => some (.value, .array (v :: vs) :: stack)
  | .array vs :: stack, .closeArray => some (.done (.array (v :: vs).reverse), stack)
  | .object fs k :: stack, .comma => some (.name ((k, v) :: fs), stack)
  | .object fs k :: stack, .closeObject => some (.done (.object ((k, v) :: fs).reverse), stack)
  | _, _ => none

def step : Reading → Token → Option Reading
  | (.value, stack), t => beginValue stack t
  | (.arrayStart, stack), .closeArray => some (.done (.array []), stack)
  | (.arrayStart, stack), t => beginValue (.array [] :: stack) t
  | (.objectStart, stack), .closeObject => some (.done (.object []), stack)
  | (.objectStart, stack), .string k => some (.colon [] k, stack)
  | (.name fs, stack), .string k => some (.colon fs k, stack)
  | (.colon fs k, stack), .colon => some (.value, .object fs k :: stack)
  | (.done v, stack), t => afterValue v stack t
  | _, _ => none

def run : Reading → List Token → Option Reading
  | r, [] => some r
  | r, t :: ts => (step r t).bind (run · ts)

def ofTokens? (ts : List Token) : Option Json :=
  match run (.value, []) ts with
  | some (.done v, []) => some v
  | _ => none

def parse (s : String) : Option Json := (Token.ofText? s.toList).bind ofTokens?

def ofText (s : String) : Json := .string (some s)

def ofNat (n : Nat) : Json := .number (.ofNat n)

def ofBinary64 (x : Binary64) : Json := if x.isFinite then .number x.toNumeral else .null

def ofOption {α : Type} (f : α → Json) : Option α → Json
  | none => .null
  | some a => f a

def ofTexts (ss : List String) : Json := .array (ss.map ofText)

def ofBytes (bs : Bytes) : Json := .array (bs.map fun b => ofNat b.toNat)

def record (fields : List (String × Json)) : Json := .object (fields.map fun f => (some f.1, f.2))

def text? : Json → Option String
  | .string s => s
  | _ => none

def bool? : Json → Option Bool
  | .bool b => some b
  | _ => none

/-- A whole number below the bound, written without a sign, fraction or power of ten. -/
def nat? (bound : Nat) : Json → Option Nat
  | .number n => n.toNat?.filter (· < bound)
  | _ => none

def uint16? (v : Json) : Option UInt16 := (v.nat? (2 ^ 16)).map UInt16.ofNat
def uint32? (v : Json) : Option UInt32 := (v.nat? (2 ^ 32)).map UInt32.ofNat
def uint64? (v : Json) : Option UInt64 := (v.nat? (2 ^ 64)).map UInt64.ofNat

def binary64? : Json → Option Binary64
  | .number n => Binary64.ofNumeral n
  | _ => none

def list? {α : Type} (f : Json → Option α) : Json → Option (List α)
  | .array vs => vs.mapM f
  | _ => none

def byte? (v : Json) : Option UInt8 := (v.nat? 256).map UInt8.ofNat

end Json

end RelayGate
