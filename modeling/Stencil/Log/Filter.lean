import Stencil.Log.Reader

/-! The filter that decides what the engine logs. -/

set_option autoImplicit false

namespace Stencil.Log

def engineTargets : List String := ["rusty_templates_engine", "rusty_templates_core"]

/-- Warnings from everywhere, and a level for the engine itself. -/
def engineOnly (level : Level) : List Directive :=
  .plain none .warn :: engineTargets.map fun target => .plain (some target) level

/-- Directives with commas between them, of which several may stand together. -/
def readAll? (cs : List Char) : Option (List Directive) :=
  ((Text.splitOn ',' cs).filter (!·.isEmpty)).mapM Directive.read?

/-- The directives of a setting: a level other than off is meant for the engine, any other text is a list of
directives, and one that cannot be read stands for the level info. -/
def engineDirectives (setting : String) : List Directive :=
  match (Level.ofText? (Text.trim setting.toList)).filter (· != .off) with
  | some level => engineOnly level
  | none => (readAll? setting.toList).getD (engineOnly .info)

/-- The written form of directives: those that depend on no span, then those that do, each by how much they
ask for. -/
def filterText (directives : List Directive) : String :=
  let (dynamics, statics) := directives.partition (·.isDynamic)
  let fixed := Directive.sort (statics ++ dynamics.filterMap (·.toStatic?))
  ",".intercalate ((fixed ++ Directive.sort dynamics).map (·.text))

def engineFilter (setting : String) : String := filterText (engineDirectives setting)

end Stencil.Log
