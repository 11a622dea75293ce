import Stencil.Template.Bits
import Stencil.Template.Expression
import Stencil.Template.ParseError

/-! Load tags: whole libraries, or some filters of one library, brought into scope. -/

set_option autoImplicit false

namespace Stencil

/-- The library of a name that the template gives at a span. -/
def Catalog.library (catalog : Catalog) (name : String) (span : Span) : Except Template.ParseError Library :=
  match catalog.find? name with
  | some library => .ok library
  | none => .error (.unknownLibrary name (catalog.names.mergeSort fun a b => decide (a ≤ b)) span)

namespace Template

/-- Brings the libraries named by words of a tag into scope, from left to right. -/
def loadLibraries (catalog : Catalog) (registry : Registry) : List Bit → Except ParseError Registry
  | [] => .ok registry
  | bit :: bits => do
    let library ← catalog.library bit.text bit.span
    loadLibraries catalog (registry.load library) bits

/-- The filters of a library that words of a tag name, in order. -/
def filtersNamed (library : Library) (asked : String) : List Bit → Except ParseError (List (String × Filter))
  | [] => .ok []
  | bit :: bits =>
    match library.filter? bit.text with
    | none => .error (.notInLibrary bit.text asked bit.span)
    | some filter => do
      let others ← filtersNamed library asked bits
      return (bit.text, filter) :: others

/-- Words that name filters and, behind the word `from`, their library. -/
def splitFrom? (arguments : List Bit) : Option (List Bit × Bit) :=
  match arguments.reverse with
  | library :: word :: name :: names =>
    if word.text = "from" then some ((name :: names).reverse, library) else none
  | _ => none

/-- What a load tag with the given words asks for, and the filters in scope behind it. -/
def Load.ofBits (catalog : Catalog) (registry : Registry) (arguments : List Bit) :
    Except ParseError (Load × Registry) :=
  match splitFrom? arguments with
  | some (names, source) => do
    let library ← catalog.library source.text source.span
    let filters ← filtersNamed library source.text names
    let scope := filters.foldl (fun scope (name, filter) => scope.bind name filter library.name) registry
    return (.filters (names.map (·.text)) source.text, scope)
  | none => do
    let scope ← loadLibraries catalog registry arguments
    return (.libraries (arguments.map (·.text)), scope)

end Template

end Stencil
