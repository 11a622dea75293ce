import Stencil.Value

/-! Trees of plain data, as JSON documents hold them: objects keep the order in which their keys first
came. -/

set_option autoImplicit false

namespace Stencil

/-- A number of a document: a whole number from `-2 ^ 63` up to below `2 ^ 64`, or a double. -/
inductive Json.Number where
  | integer (n : Int)
  | float (x : Float)

inductive Json where
  | null
  | bool (b : Bool)
  | number (n : Json.Number)
  | string (s : String)
  | array (items : List Json)
  | object (entries : List (String × Json))

instance : Inhabited Json := ⟨.null⟩

/-- The value of a number: a double if it leaves the signed 64-bit range. -/
def Json.Number.toValue : Json.Number → Value
  | .integer n =>
    if Int64.minValue.toInt ≤ n ∧ n ≤ Int64.maxValue.toInt then .integer (Int64.ofInt n) else .float (Float.ofInt n)
  | .float x => .float x

mutual

def Json.toValue : Json → Value
  | .null => .none
  | .bool b => .bool b
  | .number n => n.toValue
  | .string s => .text s
  | .array items => .list (Json.toValues items)
  | .object entries => .dict (Json.toEntries entries)

def Json.toValues : List Json → List Value
  | [] => []
  | j :: rest => j.toValue :: Json.toValues rest

def Json.toEntries : List (String × Json) → List (String × Value)
  | [] => []
  | (key, j) :: rest => (key, j.toValue) :: Json.toEntries rest

end

end Stencil
