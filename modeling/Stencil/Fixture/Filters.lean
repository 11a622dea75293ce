import Stencil.Filter
import Stencil.Text.Lowercase
import Stencil.Text.Search

/-! Sample filter libraries: text filters and arithmetic.

Whole numbers stay whole, a double makes the result a double, and text is repeated by a whole number. -/

set_option autoImplicit false

namespace Stencil.Fixture

def multiply (left right : Value) : Except HostFailure Value :=
  match left, right with
  | .integer a, .integer b =>
    let product := a.toInt * b.toInt
    if Int64.minValue.toInt ≤ product ∧ product ≤ Int64.maxValue.toInt then .ok (.integer (Int64.ofInt product))
    else .error (.raised (.other "integer overflow"))
  | .text s, .integer n | .safeText s, .integer n | .integer n, .text s | .integer n, .safeText s =>
    match Value.repeatText s n.toInt.toNat with
    | some repeated => .ok (.text repeated)
    | none => .error .exhausted
  | _, _ =>
    match left.asFloat?, right.asFloat? with
    | some a, some b => .ok (.float (a * b))
    | _, _ => .error (.raised (.unsupportedOperands "*" left.typeName right.typeName))

/-- The quotient of two values, always a double. -/
def divide (left right : Value) : Except HostFailure Value :=
  match left.asFloat?, right.asFloat? with
  | some a, some b => if b == 0.0 then .error (.raised .zeroDivision) else .ok (.float (a / b))
  | _, _ => .error (.raised (.unsupportedOperands "/" left.typeName right.typeName))

/-- The shown form of a value without the occurrences of another's. -/
def cut (value needle : Value) : Value :=
  .text (String.ofList (Text.replace needle.display.toList [] value.display.toList))

def customFilters : Library :=
  (Library.new "custom_filters")
    |>.register "cut" (.ofBinary fun value needle => .ok (cut value needle))
    |>.register "double" (.ofUnary fun value => multiply value (.integer 2))
    |>.register "multiply" (.ofOptional fun value factor => multiply value (factor.getD (.integer 3)))
    |>.register "divide_by_zero" (.ofOptional fun value divisor => divide value (divisor.getD (.integer 0)))
    |>.register "lower" (Filter.ofUnary fun value => .ok (.text (Text.lower value.display))).safe

def moreFilters : Library := (Library.new "more_filters").register "square" (.ofUnary fun value => multiply value value)

/-- A library whose `double` triples, to tell which of two filters of a name is in scope. -/
def shadowFilters : Library :=
  (Library.new "shadow_filters")
    |>.register "double" (.ofUnary fun value => multiply value (.integer 3))
    |>.register "square" (.ofUnary fun value => multiply value value)

def libraries : Libraries :=
  ([customFilters, moreFilters, shadowFilters].foldl Libraries.register OrderedMap.empty)

end Stencil.Fixture
