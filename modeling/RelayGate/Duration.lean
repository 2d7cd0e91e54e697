import RelayGate.Text.Decimal

namespace RelayGate

structure Duration where
  millis : Nat
deriving DecidableEq

namespace Duration

def ofSeconds (s : Nat) : Duration := ⟨s * 1000⟩

def seconds (d : Duration) : Nat := d.millis / 1000

def thousandths (n : Nat) : List Char :=
  (([n / 100, n / 10 % 10, n % 10].map fun d => Char.ofNat (48 + d)).reverse.dropWhile
    (· == '0')).reverse

/-- In seconds with a fraction where needed; below one second in milliseconds. -/
def text (d : Duration) : String :=
  if d.millis = 0 then "0ns"
  else if d.millis < 1000 then toString d.millis ++ "ms"
  else
    let fraction := thousandths (d.millis % 1000)
    toString d.seconds ++ String.ofList (if fraction.isEmpty then [] else '.' :: fraction) ++ "s"

end Duration

end RelayGate
