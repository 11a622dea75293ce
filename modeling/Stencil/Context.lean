import Stencil.Value

/-! The names a template is rendered with: a stack of scopes over the builtin names.

The builtin scope and the first scope above it cannot be taken away, so the bottom of the stack is part of
the type. -/

set_option autoImplicit false

namespace Stencil

abbrev Scope := OrderedMap Value

def Scope.builtins : Scope := OrderedMap.ofPairs [("True", .bool true), ("False", .bool false), ("None", .none)]

/-- The first scope of a stack, and the scopes pushed above it, topmost first. -/
structure Context where
  base : Scope
  pushed : List Scope

namespace Context

def ofScope (scope : Scope) : Context := ⟨scope, []⟩

def empty : Context := ofScope .empty

/-- All scopes, topmost first. -/
def topDown (context : Context) : List Scope := context.pushed ++ [context.base, Scope.builtins]

/-- All scopes, the builtin names first. -/
def bottomUp (context : Context) : List Scope := Scope.builtins :: context.base :: context.pushed.reverse

theorem bottomUp_eq (context : Context) : context.bottomUp = context.topDown.reverse := by
  simp [bottomUp, topDown]

def depth (context : Context) : Nat := context.pushed.length + 2

def push (context : Context) : Context := { context with pushed := .empty :: context.pushed }

/-- Takes the topmost scope away, unless it is the first. -/
def pop (context : Context) : Option (Scope × Context) :=
  match context.pushed with
  | [] => none
  | top :: rest => some (top, { context with pushed := rest })

/-- Binds a name in the topmost scope. -/
def set (context : Context) (name : String) (value : Value) : Context :=
  match context.pushed with
  | [] => { context with base := context.base.insert name value }
  | top :: rest => { context with pushed := top.insert name value :: rest }

/-- The value of a name in the topmost scope that binds it. -/
def get? (context : Context) (name : String) : Option Value :=
  context.topDown.findSome? (·.get? name)

def contains (context : Context) (name : String) : Bool := (context.get? name).isSome

/-- One scope for the whole stack: a name has the place of the lowest scope that binds it and the value of the
topmost. -/
def flatten (context : Context) : Scope :=
  context.bottomUp.foldl (fun flat scope => flat.insertAll scope.entries) .empty

def repr (context : Context) : String :=
  "[" ++ ", ".intercalate (context.bottomUp.map fun scope => (Value.dict scope.entries).reprText) ++ "]"

end Context

end Stencil
