import Stencil.RenderError
import Stencil.Template.ParseError

/-! Errors that point into a source: a message, labelled spans and advice. -/

set_option autoImplicit false

namespace Stencil

/-- A span with a text; the primary label is the one that the error is about. -/
structure Label where
  span : Span
  text : String
  primary : Bool
  deriving DecidableEq, Repr

structure Diagnostic where
  message : String
  labels : List Label
  help : Option String
  source : String
  deriving DecidableEq, Repr

namespace Diagnostic

/-- The first label marked as primary, or else the first label. -/
def primary? (diagnostic : Diagnostic) : Option Label :=
  diagnostic.labels.find? (·.primary) <|> diagnostic.labels.head?

/-- The line and column where the primary label starts. -/
def location? (diagnostic : Diagnostic) : Option (Nat × Nat) :=
  diagnostic.primary?.map (·.span.lineColumn diagnostic.source)

/-- The texts that the labels cover, where they cover whole characters of the source. -/
def highlighted (diagnostic : Diagnostic) : List String :=
  diagnostic.labels.filterMap (·.span.slice? diagnostic.source)

end Diagnostic

/-- The error shown against the source of the template. -/
def Template.ParseError.diagnostic (error : Template.ParseError) (source : String) : Diagnostic :=
  ⟨error.message, [⟨error.span, error.labelText, true⟩], error.help?, source⟩

/-- The labels of an error: the name that is missing and what it was looked up in. -/
def RenderError.labels : RenderError → List Label
  | .missing _ object keySpan objectSpan =>
    ⟨keySpan, "key", true⟩ :: objectSpan.toList.map fun span => ⟨span, object, false⟩
  | .host _ | .exhausted => []

/-- The error shown against the source of the template; errors of the host have no place in it. -/
def RenderError.diagnostic? (error : RenderError) (source : String) : Option Diagnostic :=
  match error with
  | .missing .. => some ⟨error.message, error.labels, none, source⟩
  | .host _ | .exhausted => none

end Stencil
