import Stencil.Entries
import Stencil.Value

/-! Filters, the libraries that provide them, and the filters in scope of a template. -/

set_option autoImplicit false

namespace Stencil

/-- How many values a filter takes, the filtered one included. -/
structure Arity where
  least : Nat
  most : Nat
  deriving DecidableEq, Repr

namespace Arity

def unary : Arity := ⟨1, 1⟩
def binary : Arity := ⟨2, 2⟩
def optional : Arity := ⟨1, 2⟩

def accepts (arity : Arity) (provided : Nat) : Bool := arity.least ≤ provided && provided ≤ arity.most

end Arity

/-- A transform of values supplied by the host. A filter that keeps safety gives safe text for safe text. -/
structure Filter where
  arity : Arity
  keepsSafety : Bool
  apply : Value → Option Value → Except HostFailure Value

namespace Filter

def ofUnary (f : Value → Except HostFailure Value) : Filter := ⟨.unary, false, fun v _ => f v⟩

/-- A filter of an argument; without one it is given nothing. -/
def ofBinary (f : Value → Value → Except HostFailure Value) : Filter :=
  ⟨.binary, false, fun v arg => f v (arg.getD .none)⟩

def ofOptional (f : Value → Option Value → Except HostFailure Value) : Filter := ⟨.optional, false, f⟩

def safe (filter : Filter) : Filter := { filter with keepsSafety := true }

end Filter

structure Library where
  name : String
  filters : OrderedMap Filter

namespace Library

def new (name : String) : Library := ⟨name, .empty⟩

/-- Adds a filter, or replaces the one of that name. -/
def register (library : Library) (name : String) (filter : Filter) : Library :=
  { library with filters := library.filters.insert name filter }

def filter? (library : Library) (name : String) : Option Filter := library.filters.get? name

end Library

abbrev Libraries := OrderedMap Library

/-- Adds a library, or replaces the one of that name. -/
def Libraries.register (libraries : Libraries) (library : Library) : Libraries :=
  OrderedMap.insert libraries library.name library

/-- How a host answers for library names: the library, and the names it tells when one is unknown. -/
structure Catalog where
  find? : String → Option Library
  names : List String

def Libraries.catalog (libraries : Libraries) : Catalog := ⟨OrderedMap.get? libraries, OrderedMap.keys libraries⟩

structure BoundFilter where
  filter : Filter
  library : String

abbrev Registry := OrderedMap BoundFilter

namespace Registry

/-- Brings a filter into scope; an earlier one of that name is shadowed. -/
def bind (registry : Registry) (name : String) (filter : Filter) (library : String) : Registry :=
  OrderedMap.insert registry name ⟨filter, library⟩

def load (registry : Registry) (library : Library) : Registry :=
  library.filters.entries.foldl (fun scope (name, filter) => bind scope name filter library.name) registry

end Registry

end Stencil
