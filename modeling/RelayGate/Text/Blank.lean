import RelayGate.Text.Ranges

/-!
Blank characters, those with the property White_Space, and texts without blanks at their ends.
-/

namespace RelayGate.Text

def blankRanges : CharRanges :=
  [(0x9, 0xD), (0x20, 0x20), (0x85, 0x85), (0xA0, 0xA0), (0x1680, 0x1680), (0x2000, 0x200A),
   (0x2028, 0x2029), (0x202F, 0x202F), (0x205F, 0x205F), (0x3000, 0x3000)]

def isBlank (c : Char) : Bool := blankRanges.has c

def strip (p : Char → Bool) (s : List Char) : List Char :=
  ((s.dropWhile p).reverse.dropWhile p).reverse

def trim (s : String) : String := String.ofList (strip isBlank s.toList)

end RelayGate.Text
