import Stencil.Excerpt.Window

/-! The numbered lines of a window. Only `\n` and `\r\n` end a line that is shown; a lone `\r` stays in
its text. -/

set_option autoImplicit false

namespace Stencil.Excerpt

/-- A line of a source: its number, counted from one, its start, its bytes with the line end, and its text without. -/
structure Line where
  number : Nat
  start : Nat
  length : Nat
  text : List Char
  deriving DecidableEq, Repr

namespace Line

open Text (byteLength)

def stop (line : Line) : Nat := line.start + line.length

/-- The lines of a text that starts at an offset, after `number` lines and unfinished text in reverse. A last line
that ends with a lone `\r` has the number of the line before it. -/
def ofTextFrom (number start : Nat) (pending : List Char) : List Char → List Line
  | [] => []
  | '\r' :: '\n' :: cs =>
    let length := byteLength pending + 2
    ⟨number + 1, start, length, pending.reverse⟩ :: ofTextFrom (number + 1) (start + length) [] cs
  | '\n' :: cs =>
    let length := byteLength pending + 1
    ⟨number + 1, start, length, pending.reverse⟩ :: ofTextFrom (number + 1) (start + length) [] cs
  | [c] => [⟨if c = '\r' then number else number + 1, start, byteLength (c :: pending), (c :: pending).reverse⟩]
  | c :: cs => ofTextFrom number start (c :: pending) cs

def ofWindow (window : Window) : List Line := ofTextFrom window.line window.start [] window.text

end Line

end Stencil.Excerpt
