import RelayGate.Numeral
import RelayGate.Text.Hex

namespace RelayGate.Json

/-- A string token without a text is a well-formed literal whose escapes leave half of a surrogate
pair alone: it may stand where nobody reads it. -/
inductive Token where
  | openArray
  | closeArray
  | openObject
  | closeObject
  | comma
  | colon
  | null
  | bool (b : Bool)
  | number (n : Numeral)
  | string (text : Option String)
deriving DecidableEq

namespace Token

def escape (c : Char) : List Char :=
  match c with
  | '"' => ['\\', '"']
  | '\\' => ['\\', '\\']
  | '\x08' => ['\\', 'b']
  | '\x0c' => ['\\', 'f']
  | '\n' => ['\\', 'n']
  | '\r' => ['\\', 'r']
  | '\t' => ['\\', 't']
  | c =>
    if c.toNat < 0x20 then
      ['\\', 'u', '0', '0', Text.Hex.digit (c.toNat / 16), Text.Hex.digit (c.toNat % 16)]
    else [c]

def renderText (s : List Char) : List Char := '"' :: s.flatMap escape ++ ['"']

def render : Token → List Char
  | .openArray => ['[']
  | .closeArray => [']']
  | .openObject => ['\x7b']
  | .closeObject => ['\x7d']
  | .comma => [',']
  | .colon => [':']
  | .null => ['n', 'u', 'l', 'l']
  | .bool true => ['t', 'r', 'u', 'e']
  | .bool false => ['f', 'a', 'l', 's', 'e']
  | .number n => n.render
  | .string (some s) => renderText s.toList
  | .string none => ['"', '\\', 'u', 'd', '8', '0', '0', '"']

inductive Piece where
  | char (c : Char)
  | unit (u : Nat)

def unescape? : Char → Option Char
  | '"' => some '"'
  | '\\' => some '\\'
  | '/' => some '/'
  | 'b' => some '\x08'
  | 'f' => some '\x0c'
  | 'n' => some '\n'
  | 'r' => some '\r'
  | 't' => some '\t'
  | _ => none

def unit? (a b c d : Char) : Option Nat := do
  let a ← Text.Hex.value? a
  let b ← Text.Hex.value? b
  let c ← Text.Hex.value? c
  let d ← Text.Hex.value? d
  return a * 4096 + b * 256 + c * 16 + d

def scanPieces : List Char → Option (List Piece × List Char)
  | [] => none
  | '"' :: r => some ([], r)
  | '\\' :: 'u' :: a :: b :: c :: d :: r => do
    let u ← unit? a b c d
    let (ps, r) ← scanPieces r
    return (.unit u :: ps, r)
  | '\\' :: e :: r => do
    let c ← unescape? e
    let (ps, r) ← scanPieces r
    return (.char c :: ps, r)
  | c :: r =>
    if c.toNat < 0x20 then none
    else do
      let (ps, r) ← scanPieces r
      return (.char c :: ps, r)

/-- Two units that form a surrogate pair are one character; half a pair is no text. -/
def joinPieces : List Piece → Option (List Char)
  | [] => some []
  | .char c :: ps => (joinPieces ps).map (c :: ·)
  | .unit u :: .unit v :: ps =>
    if u < 0xD800 ∨ 0xE000 ≤ u then (joinPieces (.unit v :: ps)).map (Char.ofNat u :: ·)
    else if u < 0xDC00 ∧ 0xDC00 ≤ v ∧ v < 0xE000 then
      (joinPieces ps).map (Char.ofNat (0x10000 + (u - 0xD800) * 0x400 + (v - 0xDC00)) :: ·)
    else none
  | .unit u :: ps =>
    if u < 0xD800 ∨ 0xE000 ≤ u then (joinPieces ps).map (Char.ofNat u :: ·) else none

def isSpace (c : Char) : Bool := c == ' ' || c == '\t' || c == '\n' || c == '\r'

def scan : List Char → Option (Token × List Char)
  | '[' :: r => some (.openArray, r)
  | ']' :: r => some (.closeArray, r)
  | '\x7b' :: r => some (.openObject, r)
  | '\x7d' :: r => some (.closeObject, r)
  | ',' :: r => some (.comma, r)
  | ':' :: r => some (.colon, r)
  | 'n' :: 'u' :: 'l' :: 'l' :: r => some (.null, r)
  | 't' :: 'r' :: 'u' :: 'e' :: r => some (.bool true, r)
  | 'f' :: 'a' :: 'l' :: 's' :: 'e' :: r => some (.bool false, r)
  | '"' :: r => do
    let (ps, r) ← scanPieces r
    return (.string ((joinPieces ps).map String.ofList), r)
  | s => do
    let (n, r) ← Numeral.scan s
    return (.number n, r)

def scanAll : Nat → List Char → Option (List Token)
  | 0, _ => none
  | fuel + 1, s =>
    match s.dropWhile isSpace with
    | [] => some []
    | s => do
      let (t, r) ← scan s
      let ts ← scanAll fuel r
      return t :: ts

/-- Every token takes at least one character. -/
def ofText? (s : List Char) : Option (List Token) := scanAll (s.length + 1) s

end Token

end RelayGate.Json
