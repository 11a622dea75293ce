import Stencil.Resolution
import Stencil.Settings
import Stencil.Template
import Stencil.Text.Markup

/-! Templates rendered to text, part by part from left to right; a render gives its whole text or none. -/

set_option autoImplicit false

namespace Stencil

/-- The text of a value in output: escaped, unless escaping is off or the value is safe. -/
def Value.render (v : Value) (autoescape : Bool) : String :=
  if autoescape && !v.isSafe then Text.escape v.display else v.display

namespace Template

/-- Applies a filter; its argument is resolved first. -/
def FilterUse.run (use : FilterUse) (context : Context) (value : Value) : Evaluation Value := do
  let argument ← use.argument.mapM (·.resolve context)
  let output ← Evaluation.ofHost (use.filter.apply value argument)
  return if use.filter.keepsSafety && value.isSafe then output.markSafe else output

/-- Pipes a value through filters, from left to right. -/
def applyFilters (context : Context) (value : Value) (filters : List FilterUse) : Evaluation Value :=
  filters.foldlM (fun v use => use.run context v) value

/-- The text of an expression. If undefined names are allowed and the base cannot be resolved, the replacement
stands for the whole expression; an empty replacement is filtered like any base. -/
def Expression.render (expression : Expression) (context : Context) (settings : Settings) :
    Evaluation String :=
  let finish (base : Value) : Evaluation String := do
    return (← applyFilters context base expression.filters).render settings.autoescape
  match expression.base, settings.undefined with
  | .path path, .lenient => do
    match ← (path.resolve context).orMissing with
    | some base => finish base
    | none =>
      if settings.stringIfInvalid.isEmpty then finish (.text "")
      else return (Value.text (settings.replacement path.text)).render settings.autoescape
  | base, _ => do finish (← base.resolve context)

def Node.render (node : Node) (context : Context) (settings : Settings) : Evaluation String :=
  match node with
  | .text content _ => pure content
  | .variable expression _ => expression.render context settings
  | .load _ _ => pure ""

def renderNodes (context : Context) (settings : Settings) : List Node → Evaluation String
  | [] => pure ""
  | node :: nodes => do
    let first ← node.render context settings
    let others ← renderNodes context settings nodes
    return first ++ others

def render (template : Template) (context : Context) (settings : Settings) : Evaluation String :=
  renderNodes context settings template.nodes

end Template

end Stencil
