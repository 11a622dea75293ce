import Stencil.Decimal.Layout
import Stencil.Log.Level

/-! Directives that set the level for a part of a program: a target, a span and a field. -/

set_option autoImplicit false

namespace Stencil.Log

/-- What a field is to hold: a truth value, a number, or text that matches a pattern. -/
inductive FieldValue where
  | bool (b : Bool)
  | float (x : Float)
  | notANumber
  | natural (n : Nat)
  | integer (n : Int)
  | pattern (text : String)

namespace FieldValue

def text : FieldValue → String
  | .bool b => if b then "true" else "false"
  | .float x => Decimal.positionalText x
  | .notANumber => "NaN"
  | .natural n => toString n
  | .integer n => toString n
  | .pattern text => text

/-- The place of each kind of value in the order of values. -/
def rank : FieldValue → Nat
  | .bool _ => 0
  | .float _ => 1
  | .notANumber => 2
  | .natural _ => 3
  | .integer _ => 4
  | .pattern _ => 5

def compare : FieldValue → FieldValue → Ordering
  | .bool a, .bool b => Ord.compare a b
  | .float a, .float b => if a < b then .lt else if b < a then .gt else .eq
  | .natural a, .natural b => Ord.compare a b
  | .integer a, .integer b => Ord.compare a b
  | .pattern a, .pattern b => Ord.compare a b
  | a, b => Ord.compare a.rank b.rank

end FieldValue

/-- A field, and what it is to hold if that matters. -/
structure Field where
  name : String
  value : Option FieldValue

/-- The order of optional things: nothing comes first. -/
def compareOption {α : Type} (compare : α → α → Ordering) : Option α → Option α → Ordering
  | none, none => .eq
  | none, some _ => .lt
  | some _, none => .gt
  | some a, some b => compare a b

namespace Field

def text (field : Field) : String := field.name ++ field.value.elim "" fun v => "=" ++ v.text

def compare (a b : Field) : Ordering :=
  (Ord.compare a.value.isSome b.value.isSome).then
    ((Ord.compare a.name b.name).then (compareOption FieldValue.compare a.value b.value))

end Field

structure Directive where
  level : Level
  target : Option String
  span : Option String
  field : Option Field

namespace Directive

/-- The directive that sets a level, for a target or for everything. -/
def plain (target : Option String) (level : Level) : Directive := ⟨level, target, none, none⟩

/-- Whether the directive depends on the span something happens in. -/
def isDynamic (d : Directive) : Bool := d.span.isSome || d.field.isSome

/-- The part of a directive that does not depend on spans: it names no span and asks for no value of a field. -/
def toStatic? (d : Directive) : Option Directive :=
  if d.span.isSome || d.field.any (·.value.isSome) then none else some d

def text (d : Directive) : String :=
  let scope := if d.isDynamic then
      "[" ++ d.span.getD "" ++ d.field.elim "" (fun f => "\x7b" ++ f.text ++ "\x7d") ++ "]"
    else ""
  let place := d.target.getD "" ++ scope
  (if d.target.isSome || d.isDynamic then place ++ "=" else "") ++ d.level.name

/-- The order of directives by how much they ask for. -/
def compare (a b : Directive) : Ordering :=
  (compareOption Ord.compare (a.target.map String.utf8ByteSize) (b.target.map String.utf8ByteSize)).then
    ((Ord.compare a.span.isSome b.span.isSome).then
      ((Ord.compare a.field.isSome b.field.isSome).then
        ((compareOption Ord.compare a.target b.target).then
          ((compareOption Ord.compare a.span b.span).then
            (compareOption Field.compare a.field b.field)))))

/-- Adds a directive before those that ask for less; one that asks for the same is replaced. -/
def insert (d : Directive) : List Directive → List Directive
  | [] => [d]
  | e :: rest =>
    match d.compare e with
    | .gt => d :: e :: rest
    | .eq => d :: rest
    | .lt => e :: insert d rest

def sort (directives : List Directive) : List Directive := directives.foldl (fun sorted d => insert d sorted) []

end Directive

end Stencil.Log
