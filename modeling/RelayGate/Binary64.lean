import RelayGate.Numeral

/-!
Binary floating point numbers of 64 bits, in exact arithmetic on natural numbers. Every finite one is
a whole multiple of the least positive one, `2 ^ -1074`; these multiples are its units, and all
rounding is rounding of a quotient of naturals, to nearest with ties to even.
-/

namespace RelayGate

/-- A sign and the other 63 bits taken as one number, which grows with the absolute value. -/
structure Binary64 where
  negative : Bool
  magnitude : Nat
  magnitude_lt : magnitude < 2 ^ 63
deriving DecidableEq

namespace Binary64

def infinite : Nat := 2047 * 2 ^ 52

def isFinite (x : Binary64) : Bool := x.magnitude < infinite
def isNaN (x : Binary64) : Bool := infinite < x.magnitude

def ofMagnitude (negative : Bool) (m : Nat) : Binary64 :=
  ⟨negative, min m (2 ^ 63 - 1), by omega⟩

def zero : Binary64 := ofMagnitude false 0
def infinity (negative : Bool) : Binary64 := ofMagnitude negative infinite
def nan : Binary64 := ofMagnitude false (infinite + 2 ^ 51)

instance : Inhabited Binary64 := ⟨zero⟩

def units (m : Nat) : Nat :=
  if m < 2 ^ 52 then m else (2 ^ 52 + m % 2 ^ 52) * 2 ^ (m / 2 ^ 52 - 1)

def signedUnits (x : Binary64) : Int := if x.negative then -(units x.magnitude) else units x.magnitude

def le (x y : Binary64) : Bool := !x.isNaN && !y.isNaN && x.signedUnits ≤ y.signedUnits
def lt (x y : Binary64) : Bool := !x.isNaN && !y.isNaN && x.signedUnits < y.signedUnits

/-- The total order on all representations: negative zero stands below zero. -/
def rank (x : Binary64) : Int := if x.negative then -(x.magnitude : Int) - 1 else x.magnitude

def roundHalfEven (n d : Nat) : Nat :=
  if 2 * (n % d) < d then n / d
  else if d < 2 * (n % d) then n / d + 1
  else n / d + n / d % 2

def nearest (n d : Nat) : Nat :=
  let shift := (n * 2 ^ 1074 / d).log2 - 52
  min (shift * 2 ^ 52 + roundHalfEven (n * 2 ^ 1074) (d * 2 ^ shift)) infinite

def ofRatio (n d : Nat) : Binary64 := ofMagnitude false (nearest n d)

def one : Binary64 := ofRatio 1 1

def clampToUnit (x : Binary64) : Binary64 :=
  if x.lt zero then zero else if one.lt x then one else x

/-- The product with a whole number, rounded as a product is, and then rounded to a whole number,
halves away from zero. What is not a positive number gives 0. -/
def share (x : Binary64) (n : Nat) : Nat :=
  if x.negative || x.isNaN then 0
  else
    let u := units (nearest (units x.magnitude * n) (2 ^ 1074))
    (2 * u + 2 ^ 1074) / 2 ^ 1075

def nearestDecimal (d : Nat) (e : Int) : Nat :=
  if d = 0 ∨ e < -(d.log2 + 400 : Nat) then 0
  else if 400 < e then infinite
  else if 0 ≤ e then nearest (d * 10 ^ e.toNat) 1
  else nearest d (10 ^ (-e).toNat)

def ofNumeral (n : Numeral) : Option Binary64 :=
  let m := nearestDecimal n.digits n.scale
  if m < infinite then some (ofMagnitude n.negative m) else none

def significant (d : Nat) (e : Int) : List (Fin 10) × Int :=
  let ds := (Nat.toDigits 10 d).filterMap Numeral.digit?
  (((ds.reverse.dropWhile (· == 0)).reverse), e + ds.length - 1)

/-- Positional from `10 ^ -5` to below `10 ^ 16`, always with a fraction; otherwise one digit stands
before the point and a power of ten follows. -/
def layout (negative : Bool) (ds : List (Fin 10)) (e : Int) : Numeral :=
  if 0 ≤ e ∧ e < 16 then
    let n := e.toNat + 1
    let fraction := ds.drop n
    ⟨negative, Numeral.value (ds.take n ++ List.replicate (n - ds.length) 0),
      if fraction.isEmpty then [0] else fraction, none⟩
  else if -5 ≤ e ∧ e < 0 then
    ⟨negative, 0, List.replicate (-e - 1).toNat 0 ++ ds, none⟩
  else ⟨negative, Numeral.value (ds.take 1), ds.drop 1, some e⟩

def decimalLength (u : Nat) : Int := (Nat.toDigits 10 (u * 10 ^ 324 / 2 ^ 1074)).length - 324

/-- The two multiples of `10 ^ e` around a value given in units, as the factors of `10 ^ e`. The nearer
one comes first; of two equally near ones the even one. -/
def neighbours (u : Nat) (e : Int) : List Nat :=
  let num := u * 10 ^ (-e).toNat
  let den := 2 ^ 1074 * 10 ^ e.toNat
  let low := num / den
  let near := roundHalfEven num den
  [near, if near = low then low + 1 else low]

def candidates (x : Binary64) : List Numeral :=
  let u := units x.magnitude
  let length := decimalLength u
  (List.range 17).flatMap fun i =>
    let e := length - (i + 1 : Nat)
    (neighbours u e).map fun d => layout x.negative (significant d e).1 (significant d e).2

def exact (x : Binary64) : Numeral :=
  let u := units x.magnitude
  ⟨x.negative, u / 2 ^ 1074,
    (Nat.toDigits 10 (u % 2 ^ 1074 * 5 ^ 1074 + 10 ^ 1074)).tail.filterMap Numeral.digit?, none⟩

/-- The numeral of a finite number: the one with the fewest digits that reads back as that number,
of several the nearest. -/
def toNumeral (x : Binary64) : Numeral :=
  if x.magnitude = 0 then ⟨x.negative, 0, [0], none⟩
  else (x.candidates.find? fun n => ofNumeral n == some x).getD x.exact

def text (x : Binary64) : String := String.ofList x.toNumeral.render

end Binary64

end RelayGate
