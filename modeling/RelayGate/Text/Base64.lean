import RelayGate.Text.Hex

/-!
Base 64: three bytes in four symbols. The standard form is padded, and reading it accepts only what
writing produces; the form for addresses uses two other symbols and no padding.
-/

namespace RelayGate.Text.Base64

/-- The symbols for 62 and 63; the others are the same in both forms. -/
structure Alphabet where
  plus : Char
  slash : Char

def standard : Alphabet := ⟨'+', '/'⟩
def address : Alphabet := ⟨'-', '_'⟩

def symbol (t : Alphabet) (n : Nat) : Char :=
  if n < 26 then Char.ofNat (65 + n)
  else if n < 52 then Char.ofNat (71 + n)
  else if n < 62 then Char.ofNat (n - 4)
  else if n = 62 then t.plus
  else t.slash

def value? (t : Alphabet) (c : Char) : Option Nat :=
  if 'A' ≤ c ∧ c ≤ 'Z' then some (c.toNat - 65)
  else if 'a' ≤ c ∧ c ≤ 'z' then some (c.toNat - 71)
  else if '0' ≤ c ∧ c ≤ '9' then some (c.toNat + 4)
  else if c = t.plus then some 62
  else if c = t.slash then some 63
  else none

/-- What the last one or two bytes are written as; `pad` stands for each missing symbol. -/
def encodeWith (t : Alphabet) (pad : List Char) : Bytes → List Char
  | [] => []
  | [a] => [symbol t (a.toNat / 4), symbol t (a.toNat % 4 * 16)] ++ pad ++ pad
  | [a, b] =>
    [symbol t (a.toNat / 4), symbol t (a.toNat % 4 * 16 + b.toNat / 16),
      symbol t (b.toNat % 16 * 4)] ++ pad
  | a :: b :: c :: r =>
    symbol t (a.toNat / 4) :: symbol t (a.toNat % 4 * 16 + b.toNat / 16) ::
      symbol t (b.toNat % 16 * 4 + c.toNat / 64) :: symbol t (c.toNat % 64) :: encodeWith t pad r

def encode (bs : Bytes) : List Char := encodeWith standard ['='] bs

def encodeForAddress (bs : Bytes) : List Char := encodeWith address [] bs

/-- Padding is required, and the bits that a last group does not use are zero. -/
def decode : List Char → Option Bytes
  | [] => some []
  | [a, b, '=', '='] => do
    let x ← value? standard a
    let y ← value? standard b
    if y % 16 = 0 then return [UInt8.ofNat (x * 4 + y / 16)] else none
  | [a, b, c, '='] => do
    let x ← value? standard a
    let y ← value? standard b
    let z ← value? standard c
    if z % 4 = 0 then
      return [UInt8.ofNat (x * 4 + y / 16), UInt8.ofNat (y % 16 * 16 + z / 4)]
    else none
  | a :: b :: c :: d :: r => do
    let x ← value? standard a
    let y ← value? standard b
    let z ← value? standard c
    let w ← value? standard d
    let bs ← decode r
    return UInt8.ofNat (x * 4 + y / 16) :: UInt8.ofNat (y % 16 * 16 + z / 4) ::
      UInt8.ofNat (z % 4 * 64 + w) :: bs
  | _ => none

def decodeForAddress (s : List Char) : Option Bytes :=
  if s.any fun c => c = '+' ∨ c = '/' ∨ c = '=' then none
  else
    decode ((s.map fun c => if c = '-' then '+' else if c = '_' then '/' else c) ++
      List.replicate ((4 - s.length % 4) % 4) '=')

end RelayGate.Text.Base64

namespace RelayGate.Text

def base64 (bs : Bytes) : String := String.ofList (Base64.encode bs)

def ofBase64? (s : String) : Option Bytes := Base64.decode s.toList

end RelayGate.Text
