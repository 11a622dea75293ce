/-! Errors that the host's filters and accessors raise. -/

set_option autoImplicit false

namespace Stencil

/-- An error raised by the host; it reaches the caller of a render unchanged. -/
inductive HostError where
  | zeroDivision
  | unsupportedOperands (operator left right : String)
  | other (message : String)
  deriving DecidableEq, Repr

def HostError.message : HostError → String
  | .zeroDivision => "division by zero"
  | .unsupportedOperands operator left right =>
    "unsupported operand type(s) for " ++ operator ++ ": '" ++ left ++ "' and '" ++ right ++ "'"
  | .other message => message

/-- Why a call into the host gives no value: it raised an error, or its text would be longer than any
memory, and then the whole render cannot go on. -/
inductive HostFailure where
  | raised (error : HostError)
  | exhausted
  deriving DecidableEq, Repr

end Stencil
