import Stencil.Decimal.Layout
import Stencil.Entries
import Stencil.HostError
import Stencil.Text.Quoted

/-! Values that templates compute with.

A host object is known by its identity, its type name, two texts and the members it answers for; the
engine never looks further inside. -/

set_option autoImplicit false

namespace Stencil

/-- What a host object has under a name: a datum, or an accessor with what calling it gives. -/
inductive Attribute (V : Type) where
  | value (v : V)
  | accessor (outcome : Except HostError V)

structure HostObject (V : Type) where
  identity : Nat
  typeName : String
  repr : String
  display : String
  member? : String → Option (Attribute V)

inductive Value where
  | none
  | bool (b : Bool)
  | integer (n : Int64)
  | float (x : Float)
  | text (s : String)
  | safeText (s : String)
  | list (items : List Value)
  | dict (entries : List (String × Value))
  | object (o : HostObject Value)

instance : Inhabited Value := ⟨.none⟩

/-- The listed form of an object whose host says nothing about it. -/
def HostObject.plainRepr (typeName : String) : String := "<" ++ typeName ++ " object>"

namespace Value

/-- A dictionary made from pairs of which some may repeat a key. -/
def dictOf (pairs : List (String × Value)) : Value := .dict (Entries.ofPairs pairs)

def typeName : Value → String
  | .none => "NoneType"
  | .bool _ => "bool"
  | .integer _ => "int"
  | .float _ => "float"
  | .text _ | .safeText _ => "str"
  | .list _ => "list"
  | .dict _ => "dict"
  | .object o => o.typeName

/-- Whether the value counts as true: all but nothing, false, zero and what is empty. -/
def isTruthy : Value → Bool
  | .none => false
  | .bool b => b
  | .integer n => n != 0
  | .float x => x != 0.0
  | .text s | .safeText s => !s.isEmpty
  | .list items => !items.isEmpty
  | .dict entries => !entries.isEmpty
  | .object _ => true

/-- Whether the value is text that is not to be escaped. -/
def isSafe : Value → Bool
  | .safeText _ => true
  | _ => false

/-- Text becomes text that is not to be escaped; other values stay as they are. -/
def markSafe : Value → Value
  | .text s => .safeText s
  | v => v

def length? : Value → Option Nat
  | .text s | .safeText s => some s.length
  | .list items => some items.length
  | .dict entries => some entries.length
  | _ => Option.none

def isEmpty? (v : Value) : Option Bool := v.length?.map (· == 0)

def asInteger? : Value → Option Int64
  | .integer n => some n
  | .bool b => some (if b then 1 else 0)
  | _ => Option.none

/-- The double nearest to a 64-bit integer. -/
def floatOfInt64 (n : Int64) : Float := Float.ofInt n.toInt

def asFloat? : Value → Option Float
  | .float x => some x
  | .integer n => some (floatOfInt64 n)
  | .bool b => some (if b then 1.0 else 0.0)
  | _ => Option.none

def asText? : Value → Option String
  | .text s | .safeText s => some s
  | _ => Option.none

def asList? : Value → Option (List Value)
  | .list items => some items
  | _ => Option.none

def asDict? : Value → Option (Entries Value)
  | .dict entries => some entries
  | _ => Option.none

def asObject? : Value → Option (HostObject Value)
  | .object o => some o
  | _ => Option.none

mutual

/-- The listed form of a value: text in quotes, items and entries in brackets. -/
def repr : Value → List Char
  | .none => "None".toList
  | .bool b => if b then "True".toList else "False".toList
  | .integer n => (toString n.toInt).toList
  | .float x => Decimal.floatChars x
  | .text s | .safeText s => Text.quoteChars s.toList
  | .list items => '[' :: reprItems items ++ [']']
  | .dict entries => '\x7b' :: reprEntries entries ++ ['\x7d']
  | .object o => o.repr.toList

/-- The listed forms of items, with a comma and a blank between them. -/
def reprItems : List Value → List Char
  | [] => []
  | [v] => v.repr
  | v :: rest => v.repr ++ [',', ' '] ++ reprItems rest

/-- The listed forms of entries, with a comma and a blank between them. -/
def reprEntries : List (String × Value) → List Char
  | [] => []
  | [(k, v)] => Text.quoteChars k.toList ++ [':', ' '] ++ v.repr
  | (k, v) :: rest => Text.quoteChars k.toList ++ [':', ' '] ++ v.repr ++ [',', ' '] ++ reprEntries rest

end

def reprText (v : Value) : String := String.ofList v.repr

/-- The form in which a value is shown: text as it is, host objects as they choose, and all else listed. -/
def display : Value → String
  | .text s | .safeText s => s
  | .object o => o.display
  | v => v.reprText

mutual

/-- Whether two values are equal: text whatever its mark, numbers across the two kinds, lists item by item,
dictionaries whatever their order, and host objects if they are the same object. -/
def equal : Value → Value → Bool
  | .none, .none => true
  | .bool a, .bool b => a == b
  | .integer a, .integer b => a == b
  | .float a, .float b => a == b
  | .integer a, .float b => floatOfInt64 a == b
  | .float a, .integer b => floatOfInt64 b == a
  | .text a, .text b | .text a, .safeText b | .safeText a, .text b | .safeText a, .safeText b => a == b
  | .list as, .list bs => equalItems as bs
  | .dict as, .dict bs => as.length == bs.length && equalEntries as bs
  | .object a, .object b => a.identity == b.identity
  | _, _ => false

def equalItems : List Value → List Value → Bool
  | [], [] => true
  | a :: as, b :: bs => a.equal b && equalItems as bs
  | _, _ => false

/-- Whether every entry on the left has an equal value under its key on the right. -/
def equalEntries : List (String × Value) → List (String × Value) → Bool
  | [], _ => true
  | (k, a) :: as, bs =>
    (match Entries.get? k bs with
      | some b => a.equal b
      | Option.none => false) && equalEntries as bs

end

instance : BEq Value := ⟨equal⟩

/-- The text repeated, or nothing if it would take more bytes than any memory has. -/
def repeatText (s : String) (count : Nat) : Option String :=
  if s.isEmpty then some ""
  else if s.utf8ByteSize * count ≤ Int64.maxValue.toInt.toNat then some (String.join (List.replicate count s))
  else Option.none

end Value

end Stencil
