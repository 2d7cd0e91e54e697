import RelayGate.Power

/-!
Decimal numbers as data files write them: an optional minus sign, a whole part without leading
zeros, an optional fraction and an optional power of ten. A numeral keeps what the number is made
of, so that `12`, `12.0` and `1.2e+1` stay apart.
-/

namespace RelayGate

structure Numeral where
  negative : Bool
  whole : Nat
  fraction : List (Fin 10)
  exponent : Option Int
deriving DecidableEq

namespace Numeral

def ofNat (n : Nat) : Numeral := ⟨false, n, [], none⟩

def toNat? : Numeral → Option Nat
  | ⟨false, n, [], none⟩ => some n
  | _ => none

/-- All digits as one number: the numeral stands for `digits * 10 ^ scale`. -/
def digits (n : Numeral) : Nat := n.fraction.foldl (fun d x => d * 10 + x.val) n.whole

def scale (n : Numeral) : Int := n.exponent.getD 0 - n.fraction.length

def digitChar (d : Fin 10) : Char := Char.ofNat (48 + d.val)

def digit? (c : Char) : Option (Fin 10) :=
  if h : 48 ≤ c.toNat ∧ c.toNat < 58 then some ⟨c.toNat - 48, by omega⟩ else none

def renderFraction : List (Fin 10) → List Char
  | [] => []
  | ds => '.' :: ds.map digitChar

def renderExponent : Option Int → List Char
  | none => []
  | some e => 'e' :: (if e < 0 then '-' else '+') :: Nat.toDigits 10 e.natAbs

def render (n : Numeral) : List Char :=
  (if n.negative then ['-'] else []) ++ Nat.toDigits 10 n.whole ++ renderFraction n.fraction ++
    renderExponent n.exponent

def scanDigits : List Char → List (Fin 10) × List Char
  | [] => ([], [])
  | c :: r =>
    match digit? c with
    | some d => (d :: (scanDigits r).1, (scanDigits r).2)
    | none => ([], c :: r)

def value (ds : List (Fin 10)) : Nat := ds.foldl (fun n d => n * 10 + d.val) 0

def scanSign : List Char → Bool × List Char
  | '-' :: r => (true, r)
  | s => (false, s)

def scanWhole : List Char → Option (Nat × List Char)
  | '0' :: r => some (0, r)
  | s =>
    match scanDigits s with
    | ([], _) => none
    | (ds, r) => some (value ds, r)

def scanFraction : List Char → Option (List (Fin 10) × List Char)
  | '.' :: r =>
    match scanDigits r with
    | ([], _) => none
    | (ds, r) => some (ds, r)
  | s => some ([], s)

def scanPower (negative : Bool) (s : List Char) : Option (Option Int × List Char) :=
  match scanDigits s with
  | ([], _) => none
  | (ds, r) => some (some (if negative then -(value ds : Int) else value ds), r)

def scanExponent : List Char → Option (Option Int × List Char)
  | 'e' :: '-' :: r | 'E' :: '-' :: r => scanPower true r
  | 'e' :: '+' :: r | 'E' :: '+' :: r => scanPower false r
  | 'e' :: r | 'E' :: r => scanPower false r
  | s => some (none, s)

def scan (s : List Char) : Option (Numeral × List Char) := do
  let (negative, s) := scanSign s
  let (whole, s) ← scanWhole s
  let (fraction, s) ← scanFraction s
  let (exponent, s) ← scanExponent s
  return (⟨negative, whole, fraction, exponent⟩, s)

end Numeral

end RelayGate
