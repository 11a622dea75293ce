import Stencil.Template.Grammar
import Stencil.Template.Literal

/-! Expressions read from their text: an operand and the filters behind it, each found among the filters in
scope and given as many values as it takes. -/

set_option autoImplicit false

namespace Stencil.Template

open Text (byteLength)

/-- The filter that is named by a text at a position, with its argument. -/
def FilterUse.ofText (registry : Registry) (position : Nat) (f : FilterText) : Except ParseError FilterUse :=
  let name := String.ofList f.name
  let start := position + byteLength f.lead
  let stop := start + byteLength f.name
  match registry.get? name with
  | none => .error (.unknownFilter name ⟨start, stop⟩)
  | some bound => do
    let argument ← f.argument.mapM (Operand.ofText · (stop + 1))
    let span : Span := ⟨start, position + byteLength f.text⟩
    let provided := if argument.isSome then 2 else 1
    if bound.filter.arity.accepts provided then return ⟨name, bound.library, bound.filter, argument, span⟩
    else throw (.filterArity name bound.filter.arity.least provided span)

/-- The filters at the start of a text at a position, and what is left of the text. -/
def readFilters (registry : Registry) (position : Nat) (cs : List Char) :
    Except ParseError (List FilterUse × List Char) :=
  match _cut : takeFilter cs with
  | none => .ok ([], cs)
  | some (f, after) => do
    let first ← FilterUse.ofText registry position f
    let (others, rest) ← readFilters registry (position + byteLength f.text) after
    return (first :: others, rest)
termination_by cs.length
decreasing_by exact takeFilter_length _cut

/-- The expression written by a text that starts at an offset. -/
def Expression.ofText (registry : Registry) (text : List Char) (offset : Nat) :
    Except ParseError Expression :=
  let token := String.ofList text
  let span := Span.ofLength offset (byteLength text)
  match takeOperand text with
  | none =>
    if (takeFilter text).isSome then .error (.missingVariable token span)
    else .error (.invalidRemainder token token span)
  | some (operand, after) => do
    let base ← Operand.ofText operand offset
    let (filters, rest) ← readFilters registry (offset + byteLength operand) after
    if rest.isEmpty then return ⟨base, filters, token, span⟩
    else throw (.invalidRemainder (String.ofList rest) token ⟨span.stop - byteLength rest, span.stop⟩)

end Stencil.Template
