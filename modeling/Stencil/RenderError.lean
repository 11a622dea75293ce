import Stencil.HostError
import Stencil.Span

/-! Why a render gives no text. -/

set_option autoImplicit false

namespace Stencil

/-- A name that cannot be looked up, with the listed form of what it was looked up in and the spans of both
(none for the context as a whole); an error of the host; or a text longer than any memory, at which the program ends
with no answer. -/
inductive RenderError where
  | missing (key object : String) (keySpan : Span) (objectSpan : Option Span)
  | host (error : HostError)
  | exhausted
  deriving DecidableEq, Repr

def RenderError.message : RenderError → String
  | .missing key object _ _ => "Failed lookup for key [" ++ key ++ "] in " ++ object
  | .host error => error.message
  | .exhausted => "text too long"

def HostFailure.toRenderError : HostFailure → RenderError
  | .raised error => .host error
  | .exhausted => .exhausted

end Stencil
