import Stencil.Context
import Stencil.Decimal.Reader
import Stencil.Evaluation
import Stencil.Template.Expression

/-! Paths resolved one name at a time: the first in the context, each later one in the value before it. -/

set_option autoImplicit false

namespace Stencil

/-- The index a name stands for: one ASCII digit or more, of a number that fits into 64 bits. -/
def index? (name : String) : Option Nat :=
  if name.isEmpty || !name.toList.all Text.isDigit then none
  else (some (Decimal.ofDigits name.toList)).filter (· < UInt64.size)

/-- What a value has under a name: an entry of a dictionary, an item or character by its index, or a member of
a host object. -/
def Value.attribute? (v : Value) (name : String) : Option (Attribute Value) :=
  match v with
  | .dict entries => (Entries.get? name entries).map .value
  | .list items => (index? name).bind fun n => items[n]?.map .value
  | .text s | .safeText s => (index? name).bind fun n => s.toList[n]?.map fun c => .value (.text (String.singleton c))
  | .object o => o.member? name
  | _ => Option.none

/-- The value of a datum, or what calling an accessor gives. -/
def Attribute.resolve {V : Type} : Attribute V → Except HostError V
  | .value v => .ok v
  | .accessor outcome => outcome

/-- The value that a value has under a name, if it has one. -/
def Value.lookup (v : Value) (name : String) : Except HostError (Option Value) :=
  match v.attribute? name with
  | some found => found.resolve.map some
  | Option.none => .ok Option.none

/-- The value of an attribute found under a name; a call of an accessor is told. -/
def Attribute.evaluate (found : Attribute Value) (owner : Value) (name : String) : Evaluation Value :=
  match found with
  | .value v => pure v
  | .accessor outcome => ⟨owner.asObject?.toList.map (⟨·.identity, name⟩), outcome.mapError .host⟩

namespace Template

/-- Follows the names from position `index` on from a value; `current` is the value of the name before them. -/
def Path.follow (path : Path) (index : Nat) (current : Value) : List Segment → Evaluation Value
  | [] => pure current
  | segment :: rest =>
    match current.attribute? segment.name with
    | none => .fail (.missing segment.name current.reprText segment.span (some (path.prefixSpan index)))
    | some found => do
      let next ← found.evaluate current segment.name
      path.follow (index + 1) next rest

def Path.resolve (path : Path) (context : Context) : Evaluation Value :=
  match path.segments with
  | [] => .fail (.missing "" context.repr path.span none)
  | first :: rest =>
    match context.get? first.name with
    | none => .fail (.missing first.name context.repr first.span none)
    | some value => path.follow 0 value rest

def Operand.resolve (operand : Operand) (context : Context) : Evaluation Value :=
  match operand with
  | .literal value _ => pure value
  | .path p => p.resolve context

end Template

end Stencil
