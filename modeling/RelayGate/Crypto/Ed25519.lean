import RelayGate.Crypto.Sha512
import RelayGate.Power

/-!
Ed25519 signatures on the curve `-x² + y² = 1 + d x² y²` over the integers modulo `2^255 - 19`, with
strict verification: keys and commitments of small order are refused.
-/

namespace RelayGate.Ed25519

def prime : Nat := 2 ^ 255 - 19

def sub (a b : Nat) : Nat := (a + prime - b) % prime

def power (a n : Nat) : Nat :=
  (List.range 256).foldr
    (fun i r => if n.testBit i then r * r % prime * a % prime else r * r % prime) 1

def inverse (a : Nat) : Nat := power a (prime - 2)

def curveConstant : Nat :=
  37095705934669439343138083508754565189542113879843219016388785533085940283555

def imaginary : Nat :=
  19681161376707505956807079304988542015446066515923890162744021073123829784752

/-- The point `(x / z, y / z)`, with `t = x * y / z`. -/
structure Point where
  x : Nat
  y : Nat
  z : Nat
  t : Nat
deriving DecidableEq

namespace Point

def neutral : Point := ⟨0, 1, 1, 0⟩

def ofAffine (x y : Nat) : Point := ⟨x, y, 1, x * y % prime⟩

/-- Holds for all pairs of points of the curve, equal ones included. -/
def add (p q : Point) : Point :=
  let a := sub p.y p.x * sub q.y q.x % prime
  let b := (p.y + p.x) * (q.y + q.x) % prime
  let c := 2 * curveConstant * p.t % prime * q.t % prime
  let d := 2 * p.z * q.z % prime
  let e := sub b a
  let f := sub d c
  let g := d + c
  let h := b + a
  ⟨e * f % prime, g * h % prime, f * g % prime, e * h % prime⟩

def neg (p : Point) : Point := { p with x := sub 0 p.x, t := sub 0 p.t }

def scale (n : Nat) (p : Point) : Point :=
  (List.range 256).foldr
    (fun i r => if n.testBit i then ((r.add r).add p) else r.add r) neutral

def hasSmallOrder (p : Point) : Bool :=
  let p2 := p.add p
  let p4 := p2.add p2
  let p8 := p4.add p4
  p8.x == 0 && p8.y == p8.z

def base : Point :=
  .ofAffine 15112221349535400772501151409588531511454012693041857206046113283949847762202
    46316835694926478169428394003475163141307993866256225615783033603165251855960

end Point

def order : Nat := 2 ^ 252 + 27742317777372353535851937790883648493

def Point.encode (p : Point) : Bytes :=
  let i := inverse p.z
  let x := p.x * i % prime
  let y := p.y * i % prime
  Bytes.littleEndian 32 (y + x % 2 * 2 ^ 255)

def rootOfRatio (u v : Nat) : Option Nat :=
  let v3 := v * v % prime * v % prime
  let v7 := v3 * v3 % prime * v % prime
  let r := u * v3 % prime * power (u * v7 % prime) ((prime - 5) / 8) % prime
  let check := v * r % prime * r % prime
  if check = u then some r
  else if check = sub 0 u then some (r * imaginary % prime)
  else none

/-- The point of thirty-two bytes: the second coordinate, taken modulo the prime, and the parity of
the first one. -/
def Point.decode (bs : Bytes) : Option Point :=
  if bs.length ≠ 32 then none
  else
    let n := Bytes.number bs
    let y := n % 2 ^ 255 % prime
    let yy := y * y % prime
    (rootOfRatio (sub yy 1) ((curveConstant * yy + 1) % prime)).map fun r =>
      .ofAffine (if r % 2 = n / 2 ^ 255 then r else sub 0 r) y

/-- The number that a seed stands for: a multiple of eight between `2 ^ 254` and `2 ^ 255`. -/
def secret (seed : Bytes) : Nat :=
  let n := Bytes.number ((Sha512.hash seed).take 32)
  2 ^ 254 + n % 2 ^ 254 / 8 * 8

def publicKey (seed : Bytes) : Bytes := (Point.base.scale (secret seed)).encode

def challenge (commitment key message : Bytes) : Nat :=
  Bytes.number (Sha512.hash (commitment ++ key ++ message)) % order

def sign (seed message : Bytes) : Bytes :=
  let nonce := Bytes.number (Sha512.hash ((Sha512.hash seed).drop 32 ++ message)) % order
  let commitment := (Point.base.scale nonce).encode
  let k := challenge commitment (publicKey seed) message
  commitment ++ Bytes.littleEndian 32 ((nonce + k * secret seed) % order)

structure VerifyingKey where
  bytes : Bytes
  point : Point
deriving DecidableEq

def VerifyingKey.ofSeed (seed : Bytes) : VerifyingKey :=
  ⟨publicKey seed, Point.base.scale (secret seed)⟩

def VerifyingKey.ofBytes? (bs : Bytes) : Option VerifyingKey := (Point.decode bs).map fun p => ⟨bs, p⟩

/-- The signature `R` and `s` is good if `s < order` and `[s]B = R + [k]A`, and neither `R` nor `A` has
small order. -/
def VerifyingKey.verify (key : VerifyingKey) (message signature : Bytes) : Bool :=
  if signature.length ≠ 64 then false
  else
    let commitment := signature.take 32
    let s := Bytes.number (signature.drop 32)
    match Point.decode commitment with
    | none => false
    | some r =>
      s < order && !r.hasSmallOrder && !key.point.hasSmallOrder &&
        ((Point.base.scale s).add
          (key.point.neg.scale (challenge commitment key.bytes message))).encode == commitment

end RelayGate.Ed25519
