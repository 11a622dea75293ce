import Stencil.Text.Search

/-! What an engine can be set to do. -/

set_option autoImplicit false

namespace Stencil

/-- What happens when the base of a variable tag cannot be resolved: the render fails, or goes on with a
replacement. -/
inductive Undefined where
  | strict
  | lenient
  deriving DecidableEq, Repr

structure Settings where
  autoescape : Bool := true
  undefined : Undefined := .strict
  stringIfInvalid : String := ""
  builtins : List String := []
  debug : Bool := false
  logLevel : String := "info"
  diagnosticWidth : Nat := 200
  deriving DecidableEq, Repr

instance : Inhabited Settings := ⟨{}⟩

/-- The replacement for a variable that cannot be resolved: every `%s` in it becomes the text of the variable. -/
def Settings.replacement (settings : Settings) (name : String) : String :=
  String.ofList (Text.replace ['%', 's'] name.toList settings.stringIfInvalid.toList)

end Stencil
