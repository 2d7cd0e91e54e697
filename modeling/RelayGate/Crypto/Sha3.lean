import RelayGate.Bytes

namespace RelayGate.Sha3

/-- Twenty-five words; the one in column `x` and row `y` stands at `x + 5 * y`. -/
abbrev Sponge := List UInt64

def roundConstants : List UInt64 :=
  [0x0000000000000001, 0x0000000000008082, 0x800000000000808a, 0x8000000080008000,
   0x000000000000808b, 0x0000000080000001, 0x8000000080008081, 0x8000000000008009,
   0x000000000000008a, 0x0000000000000088, 0x0000000080008009, 0x000000008000000a,
   0x000000008000808b, 0x800000000000008b, 0x8000000000008089, 0x8000000000008003,
   0x8000000000008002, 0x8000000000000080, 0x000000000000800a, 0x800000008000000a,
   0x8000000080008081, 0x8000000000008080, 0x0000000080000001, 0x8000000080008008]

def rotations : List UInt64 :=
  [0, 1, 62, 28, 27, 36, 44, 6, 55, 20, 3, 10, 43, 25, 39, 41, 45, 15, 21, 8, 18, 2, 61, 56, 14]

def rotate (x : UInt64) (n : UInt64) : UInt64 := if n = 0 then x else (x <<< n) ||| (x >>> (64 - n))

def lane (s : Sponge) (x y : Nat) : UInt64 := s.getD (x % 5 + 5 * (y % 5)) 0

def build (f : Nat → Nat → UInt64) : Sponge := (List.range 25).map fun i => f (i % 5) (i / 5)

def parity (s : Sponge) (x : Nat) : UInt64 :=
  lane s x 0 ^^^ lane s x 1 ^^^ lane s x 2 ^^^ lane s x 3 ^^^ lane s x 4

def theta (s : Sponge) : Sponge :=
  build fun x y => lane s x y ^^^ parity s (x + 4) ^^^ rotate (parity s (x + 1)) 1

/-- Rotates every word and moves it: what comes to column `x` and row `y` was in column `x + 3 * y`
and row `x`. -/
def rhoPi (s : Sponge) : Sponge :=
  let r := (s.zip rotations).map fun p => rotate p.1 p.2
  build fun x y => lane r (x + 3 * y) x

def chi (s : Sponge) : Sponge :=
  build fun x y => lane s x y ^^^ (~~~(lane s (x + 1) y) &&& lane s (x + 2) y)

def round (s : Sponge) (c : UInt64) : Sponge :=
  match chi (rhoPi (theta s)) with
  | [] => []
  | w :: ws => (w ^^^ c) :: ws

def permute (s : Sponge) : Sponge := roundConstants.foldl round s

def rate : Nat := 136

def padded (m : Bytes) : Bytes :=
  match rate - m.length % rate with
  | 1 => m ++ [0x86]
  | k => m ++ 0x06 :: List.replicate (k - 2) 0 ++ [0x80]

def word (bs : Bytes) : UInt64 := bs.foldr (fun b w => w * 256 + b.toUInt64) 0

def absorb (s : Sponge) (block : Bytes) : Sponge :=
  permute (s.zipWith (· ^^^ ·) ((Bytes.pieces 8 17 block).map word ++ List.replicate 8 0))

def hash (m : Bytes) : Bytes :=
  let bs := padded m
  let s := (Bytes.pieces rate (bs.length / rate) bs).foldl absorb (List.replicate 25 0)
  (s.take 4).flatMap fun w => Bytes.littleEndian 8 w.toNat

end RelayGate.Sha3
