import Stencil.Span
import Stencil.Text.Class

/-! The words of a block tag: pieces between blanks, where blanks inside quotes do not count. -/

set_option autoImplicit false

namespace Stencil.Template

/-- A word of a tag and where it stands. -/
structure Bit where
  text : String
  span : Span
  deriving DecidableEq, Repr

/-- Whether the text read so far leaves a quote open, and whether a backslash protects the next character. -/
inductive Quoting where
  | outside
  | inside (mark : Char)
  | escaped (mark : Char)
  deriving DecidableEq, Repr

def Quoting.next : Quoting → Char → Quoting
  | .outside, c => if c = '\'' ∨ c = '"' then .inside c else .outside
  | .inside mark, c => if c = '\\' then .escaped mark else if c = mark then .outside else .inside mark
  | .escaped mark, _ => .inside mark

namespace Bit

open Text (byteLength isBlank)

/-- The word that ends at a position, given in reverse; no word for no text. -/
def ofReversed (reversed : List Char) (stop : Nat) : List Bit :=
  if reversed.isEmpty then []
  else [⟨String.ofList reversed.reverse, ⟨stop - byteLength reversed, stop⟩⟩]

/-- The words of the text from a position on, after an unfinished word in reverse. -/
def splitFrom (position : Nat) (quoting : Quoting) (pending : List Char) : List Char → List Bit
  | [] => ofReversed pending position
  | c :: cs =>
    if quoting = .outside ∧ isBlank c then
      ofReversed pending position ++ splitFrom (position + c.utf8Size) .outside [] cs
    else splitFrom (position + c.utf8Size) (quoting.next c) (c :: pending) cs

/-- The words of the content of a tag that starts at an offset. -/
def split (content : String) (offset : Nat) : List Bit := splitFrom offset .outside [] content.toList

end Bit

end Stencil.Template
