import Stencil.Context
import Stencil.Json.Reader

/-! Values made from a host's own data. -/

set_option autoImplicit false

namespace Stencil

namespace Value

/-- The value of an unsigned 64-bit integer; one that leaves the signed range wraps around. -/
def ofUnsigned (n : UInt64) : Value := .integer n.toInt64

/-- The value of a single-precision number, which a double holds exactly. -/
def ofSingle (x : Float32) : Value := .float x.toFloat

def ofOption (v : Option Value) : Value := v.getD .none

/-- A dictionary made from pairs of which some may repeat a key, in the order of its keys. -/
def sortedDict (pairs : List (String × Value)) : Value :=
  .dict ((Entries.ofPairs pairs).mergeSort fun a b => decide (a.1 ≤ b.1))

end Value

def Context.ofJson? (text : String) : Option Context :=
  match Json.read? text with
  | some (.object entries) => some (.ofScope (OrderedMap.ofPairs (Json.toEntries entries)))
  | _ => none

end Stencil
