import Stencil.Filter

/-! Sample filters that show what they are given. -/

set_option autoImplicit false

namespace Stencil.Fixture

/-- What a sample filter gives: the value, its argument, something about either, or a failure. -/
inductive Probe where
  | value
  | argument
  | repr
  | typeName
  | markSafe
  | wrapped
  | joined
  | listed
  | fail (message : String)
  | zeroDivision
  deriving DecidableEq, Repr

/-- What the filter gives for a value and an argument. -/
def Probe.apply (probe : Probe) (value : Value) (argument : Option Value) : Except HostFailure Value :=
  match probe with
  | .value => .ok value
  | .argument => .ok (argument.getD .none)
  | .repr => .ok (.text value.reprText)
  | .typeName => .ok (.text value.typeName)
  | .markSafe => .ok value.markSafe
  | .wrapped => .ok (.text ("<" ++ value.display ++ ">"))
  | .joined => .ok (.text (value.display ++ "|" ++ argument.elim "-" Value.display))
  | .listed => .ok (.list [value, argument.getD .none])
  | .fail message => .error (.raised (.other message))
  | .zeroDivision => .error (.raised .zeroDivision)

inductive Shape where
  | unary
  | binary
  | optional
  | counts (arity : Arity)
  deriving DecidableEq, Repr

def Probe.filter (probe : Probe) (shape : Shape) (keepsSafety : Bool) : Filter :=
  let filter := match shape with
    | .unary => Filter.ofUnary fun v => probe.apply v none
    | .binary => Filter.ofBinary fun v argument => probe.apply v (some argument)
    | .optional => Filter.ofOptional probe.apply
    | .counts arity => { Filter.ofOptional probe.apply with arity := arity }
  { filter with keepsSafety := keepsSafety }

end Stencil.Fixture
