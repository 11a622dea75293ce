import Stencil.Diagnostic
import Stencil.Rendering
import Stencil.Report
import Stencil.Settings

/-! The engine: settings and a catalog of libraries, with which templates are read and rendered. -/

set_option autoImplicit false

namespace Stencil

structure Engine where
  settings : Settings
  catalog : Catalog

inductive TemplateError where
  | parse (error : Template.ParseError)
  | render (error : RenderError)
  deriving DecidableEq, Repr

def TemplateError.diagnostic? (error : TemplateError) (source : String) : Option Diagnostic :=
  match error with
  | .parse error => some (error.diagnostic source)
  | .render error => error.diagnostic? source

namespace Engine

/-- Reads a template with the builtin libraries of the settings in scope. -/
def parse (engine : Engine) (source : String) : Except Template.ParseError Template :=
  Template.parse engine.catalog engine.settings.builtins source

def render (engine : Engine) (template : Template) (context : Context) : Evaluation String :=
  template.render context engine.settings

/-- The layout of reports about templates of the engine. -/
def formatter (engine : Engine) : Formatter := { width := engine.settings.diagnosticWidth }

end Engine

end Stencil
