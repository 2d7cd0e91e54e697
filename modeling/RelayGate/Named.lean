import RelayGate.Json.Record

namespace RelayGate

class Named (α : Type) where
  all : List α
  name : α → String
  /-- How a text is called that is none of the names. -/
  refusal : String

namespace Named

variable {α : Type} [Named α]

/-- Names are taken exactly: no case folding, no trimming. -/
def ofName? (s : String) : Option α := all.find? fun a : α => name a == s

def refuse (α : Type) [Named α] (s : String) : String := refusal α ++ ": " ++ s

def ofJson? : Json → Option α := Json.named? (all.map fun a : α => (name a, a))

def toJson (a : α) : Json := .ofText (name a)

end Named

end RelayGate
