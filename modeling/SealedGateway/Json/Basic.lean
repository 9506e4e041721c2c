import SealedGateway.Value

/-!
# JSON values

The values of a descriptor on the wire.  The entries of an object keep their order; a name that is
written twice stands for its last value.
-/

namespace SealedGateway

/-- A JSON value. -/
inductive Json
  | null
  | flag (value : Bool)
  | whole (value : Int)
  | real (value : Binary64)
  | text (value : WideText)
  | list (items : List Json)
  | object (entries : List (WideText × Json))

namespace Json

/-- The last value that a list of entries gives a name. -/
def lookup? {α : Type} (name : String) (entries : List (WideText × α)) : Option α :=
  (entries.reverse.find? fun entry => entry.1 = WideText.ofString name).map Prod.snd

mutual

/-- A JSON value as a loosely typed one. -/
def toValue : Json → Value
  | null => .null
  | flag value => .flag value
  | whole value => .whole value
  | real value => .real value
  | text value => .text value
  | list items => .list (itemsToValues items)
  | object entries => .dict (entriesToValues entries)

/-- The elements of a list as loosely typed values. -/
def itemsToValues : List Json → List Value
  | [] => []
  | item :: rest => toValue item :: itemsToValues rest

/-- The entries of an object as loosely typed values. -/
def entriesToValues : List (WideText × Json) → List (WideText × Value)
  | [] => []
  | (name, value) :: rest => (name, toValue value) :: entriesToValues rest

end

end Json
end SealedGateway
