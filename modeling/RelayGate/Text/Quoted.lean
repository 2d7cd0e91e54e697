import RelayGate.Text.Visible

namespace RelayGate.Text.Quoted

def hexDigits (n : Nat) : List Char := Nat.toDigits 16 n

def escape (c : Char) : List Char :=
  match c with
  | '\x00' => ['\\', '0']
  | '\t' => ['\\', 't']
  | '\n' => ['\\', 'n']
  | '\r' => ['\\', 'r']
  | '"' => ['\\', '"']
  | '\\' => ['\\', '\\']
  | c => if isVisible c then [c] else ['\\', 'u', '\x7b'] ++ hexDigits c.toNat ++ ['\x7d']

def encode (s : List Char) : List Char := '"' :: s.flatMap escape ++ ['"']

end RelayGate.Text.Quoted

namespace RelayGate.Text

def quote (s : String) : String := String.ofList (Quoted.encode s.toList)

end RelayGate.Text
