import Stencil.Template.ParseError
import Stencil.Text.Class
import Stencil.Text.Search

/-! A template cut into plain text and tags.

A tag ends at the first closing mark behind its opening mark and never spans lines: an opening mark
whose closing mark stands on a later line is plain text. -/

set_option autoImplicit false

namespace Stencil.Template

/-- A piece of a template: plain text, or a tag with its trimmed content and where that stands. -/
inductive Token where
  | text (content : String) (span : Span)
  | tag (kind : Delimiter) (content : String) (span contentSpan : Span)
  deriving DecidableEq, Repr

namespace Token

open Text (byteLength splitAtPair isBlank trim)

def span : Token → Span
  | text _ s => s
  | tag _ _ s _ => s

def content : Token → String
  | text c _ => c
  | tag _ c _ _ => c

def contentSpan : Token → Span
  | text _ s => s
  | tag _ _ _ s => s

/-- The tag that starts at a position and has the given text between its marks. -/
def ofTag (kind : Delimiter) (start : Nat) (inner : List Char) : Token :=
  let trimmed := trim inner
  let contentStart := start + 2 + byteLength (inner.takeWhile isBlank)
  .tag kind (String.ofList trimmed) ⟨start, start + 4 + byteLength inner⟩
    (.ofLength contentStart (byteLength trimmed))

/-- The token of plain text that ends at a position, given in reverse; no token for no text. -/
def ofText (reversed : List Char) (stop : Nat) : List Token :=
  if reversed.isEmpty then []
  else [.text (String.ofList reversed.reverse) ⟨stop - byteLength reversed, stop⟩]

/-- The tokens of the text from a position on, after unfinished plain text in reverse. -/
def scanFrom (position : Nat) (pending : List Char) (cs : List Char) : Except ParseError (List Token) :=
  match cs with
  | [] => .ok (ofText pending position)
  | c :: rest =>
    match Delimiter.atStart? (c :: rest) with
    | none => scanFrom (position + c.utf8Size) (c :: pending) rest
    | some kind =>
      match _cut : splitAtPair kind.closing '\x7d' rest.tail with
      | none => .error (.unclosedTag kind (.ofLength position 2))
      | some (inner, after) =>
        if inner.contains '\n' then scanFrom (position + c.utf8Size) (c :: pending) rest
        else do
          let tokens ← scanFrom (position + 4 + byteLength inner) [] after
          return ofText pending position ++ ofTag kind position inner :: tokens
termination_by cs.length
decreasing_by
  · simp
  · simp
  · have split := congrArg List.length (Text.splitAtPair_eq_some _cut)
    simp at split ⊢
    omega

/-- The tokens of a template, in order and without gaps. -/
def scan (source : String) : Except ParseError (List Token) := scanFrom 0 [] source.toList

end Token

end Stencil.Template
