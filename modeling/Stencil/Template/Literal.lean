import Stencil.Decimal.Reader
import Stencil.Template.Expression
import Stencil.Template.ParseError
import Stencil.Text.Search

/-! Operands read from their text: quoted text, numbers and paths. -/

set_option autoImplicit false

namespace Stencil.Template

open Text (byteLength isDigit splitOn)

def isQuote (c : Char) : Bool := c == '"' || c == '\''

/-- The text between the quote marks: first every protected quote mark, then every doubled backslash is
replaced by the bare character. -/
def unquote (quote : Char) (inner : List Char) : List Char :=
  Text.replace ['\\', '\\'] ['\\'] (Text.replace ['\\', quote] [quote] inner)

def isExponentMark (c : Char) : Bool := c == 'e' || c == 'E'

/-- The number an operand stands for. Digits with at most a sign are an integer, or a double if they leave
the 64-bit range; with a point or an exponent mark they are a double, unless the text ends in a point or starts
like a name. -/
def readNumber? (text : List Char) : Option Value :=
  if !text.contains '.' && !text.any isExponentMark then
    match Decimal.readInt64? text with
    | some n => some (.integer n)
    | none =>
      let digits := (Decimal.splitSign text).2
      if digits.isEmpty || !digits.all isDigit then none else (Decimal.readFloat? text).map .float
  else if text.getLast? == some '.' then none
  else match text.head? with
    | some c =>
      if isDigit c || c == '-' || c == '+' || c == '.' then (Decimal.readFloat? text).map .float else none
    | none => none

/-- Whether the text starts with an underscore or has one right after a point. -/
def hasPrivateName (text : List Char) : Bool :=
  text.head? == some '_' || Text.contains ['.', '_'] text

/-- The path written by a text that starts at an offset. -/
def Path.ofText (text : List Char) (offset : Nat) : Path where
  segments := Path.layOut offset ((splitOn '.' text).map String.ofList)
  span := .ofLength offset (byteLength text)

/-- The operand written by a text that starts at an offset. -/
def Operand.ofText (text : List Char) (offset : Nat) : Except ParseError Operand :=
  let span := Span.ofLength offset (byteLength text)
  match text.head?.filter isQuote with
  | some quote =>
    .ok (.literal (.safeText (String.ofList (unquote quote (text.drop 1).dropLast))) span)
  | none =>
    match readNumber? text with
    | some value => .ok (.literal value span)
    | none =>
      if hasPrivateName text then .error (.underscoreName (String.ofList text) span)
      else .ok (.path (.ofText text offset))

end Stencil.Template
