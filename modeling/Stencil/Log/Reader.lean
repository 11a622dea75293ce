import Stencil.Log.Directive
import Stencil.Log.Pattern
import Stencil.Text.Search
import Stencil.Text.Utf8

/-! Directives read from their written form `target[span{field=value}]=level`, of which every part may be
missing. A lone word is a level if it names one, and else a target with every level. -/

set_option autoImplicit false

namespace Stencil.Log

/-- Where the reader stands in a directive, with the offset in bytes of the part it is in. -/
inductive Place where
  | start
  | word (first : Nat)
  | span (first : Nat)
  | field (first : Nat)
  | afterField
  | afterSpan
  | level (first : Nat)

def FieldValue.ofText? (cs : List Char) : Option FieldValue :=
  if cs = ['t', 'r', 'u', 'e'] then some (.bool true)
  else if cs = ['f', 'a', 'l', 's', 'e'] then some (.bool false)
  else match (Decimal.readNat? cs).filter (· < UInt64.size) with
    | some n => some (.natural n)
    | none =>
      match Decimal.readInt64? cs with
      | some n => some (.integer n.toInt)
      | none =>
        match Decimal.readFloat? cs with
        | some x => some (if x.isNaN then .notANumber else .float x)
        | none => if isPattern cs then some (.pattern (String.ofList cs)) else none

/-- The field of a text: its name and, behind an equals sign, its value up to the next one. -/
def Field.ofText? (cs : List Char) : Option Field :=
  if cs.isEmpty then none
  else match Text.splitOn '=' cs with
    | name :: value :: _ => (FieldValue.ofText? value).map fun value => ⟨String.ofList name, some value⟩
    | _ => some ⟨String.ofList cs, none⟩

def levelOr? (cs : List Char) : Option Level := if cs.isEmpty then some .trace else Level.ofText? cs

namespace Directive

/-- A character that a target or level may start with. -/
def startsWord (c : Char) : Bool := c == '-' || c == ':' || c == '_' || Text.isAlphanumeric c

/-- The directive that ends with a word: a level, or else a target. -/
def endWith (d : Directive) (word : List Char) : Directive :=
  match Level.ofText? word with
  | some level => { d with level := level }
  | none => { d with target := if word.isEmpty then none else some (String.ofList word) }

def finish? (written : List Char) (d : Directive) : Place → Option Directive
  | .word first => (Text.dropBytes? written first).map d.endWith
  | .level first =>
    (Text.dropBytes? written first).bind fun text => (levelOr? text).map fun level => { d with level := level }
  | .afterSpan => some d
  | _ => none

/-- Reads the rest of a directive from an offset in bytes on. Its parts are cut from the written form as given. -/
def readFrom? (written : List Char) (d : Directive) (place : Place) (position : Nat) :
    List Char → Option Directive
  | [] => finish? written d place
  | c :: cs =>
    let go (d : Directive) (place : Place) := readFrom? written d place (position + c.utf8Size) cs
    let part? (first : Nat) := Text.sliceBytes? written first position
    match place with
    | .start =>
      if c = '[' then go d (.span (position + 1)) else if startsWord c then go d (.word position) else none
    | .word first =>
      if c = '=' then
        (part? first).bind fun name => go { d with target := some (String.ofList name) } (.level (position + 1))
      else if c = '[' then
        (part? first).bind fun name => go { d with target := some (String.ofList name) } (.span (position + 1))
      else go d place
    | .span first =>
      if c = ']' then (part? first).bind fun name => go { d with span := some (String.ofList name) } .afterSpan
      else if c = '\x7b' then
        (part? first).bind fun name =>
          go { d with span := if name.isEmpty then none else some (String.ofList name) } (.field (position + 1))
      else go d place
    | .field first =>
      if c = '\x7d' then
        ((part? first).bind Field.ofText?).bind fun field => go { d with field := some field } .afterField
      else go d place
    | .afterField => if c = ']' then go d .afterSpan else none
    | .afterSpan => if c = '=' then go d (.level (position + 1)) else none
    | .level _ => go d place

/-- Reads a directive; blanks around it are not scanned. -/
def read? (written : List Char) : Option Directive :=
  readFrom? written (.plain none .trace) .start 0 (Text.trim written)

end Directive

end Stencil.Log
