import Stencil.Excerpt.Gutter
import Stencil.Text.Columns

/-! Underlines below a line and the column from which each label hangs. -/

set_option autoImplicit false

namespace Stencil.Excerpt

/-- Tabs reach the next multiple of this column. -/
def tabWidth : Nat := 4

/-- The text before a byte of a text; a byte inside a character counts as its start or as its end. -/
def takeTo (toStart : Bool) : Nat → List Char → List Char
  | 0, _ => []
  | _, [] => []
  | n + 1, c :: cs =>
    if c.utf8Size ≤ n + 1 then c :: takeTo toStart (n + 1 - c.utf8Size) cs else if toStart then [] else [c]

/-- The column of a byte of a source on its line; all bytes past the text are in the column after it. -/
def columnOf (line : Line) (offset : Nat) (toStart : Bool) : Nat :=
  let index := offset - line.start
  let width := Text.lineColumns tabWidth (takeTo toStart index line.text)
  if Text.byteLength line.text < index then width + 1 else width

/-- An underline: its columns and the column from which its label hangs. -/
structure Underline where
  annotation : Annotation
  start : Nat
  stop : Nat
  deriving DecidableEq, Repr

namespace Underline

def hook (u : Underline) : Nat := (u.start + u.stop) / 2

/-- The underline of a span within a line, right of what is already drawn. -/
def ofAnnotation (line : Line) (drawn : Nat) (a : Annotation) : Underline :=
  let start := max (columnOf line a.start true) drawn
  ⟨a, start, if a.length = 0 then start + 1 else max (columnOf line a.stop false) (start + 1)⟩

/-- The underlines of spans, from left to right without overlap. -/
def layOut (line : Line) (drawn : Nat) : List Annotation → List Underline
  | [] => []
  | a :: rest =>
    let u := ofAnnotation line drawn a
    u :: layOut line (max drawn u.stop) rest

def mark (a : Annotation) : Char :=
  if a.length = 0 then '▲' else if a.text.isEmpty then '─' else '┬'

def text (u : Underline) : List Char :=
  bars (u.hook - u.start) ++ mark u.annotation :: bars (u.stop - u.hook - 1)

def row (drawn : Nat) : List Underline → List Char
  | [] => []
  | u :: rest => blanks (u.start - drawn) ++ u.text ++ row (max drawn u.stop) rest

/-- A line of a label where it hangs from its underline. -/
def hanging (text : List Char) : LabelRow → List Char
  | .only => '╰' :: '─' :: '─' :: ' ' :: text
  | .first => '╰' :: '─' :: '┤' :: ' ' :: text
  | .later => ' ' :: ' ' :: '│' :: ' ' :: text

/-- A row with a line of a label, with the hooks of the underlines before it; `column` columns are filled. -/
def labelRow (a : Annotation) (text : List Char) (kind : LabelRow) (column : Nat) : List Underline → List Char
  | [] => []
  | u :: rest =>
    let gap := u.hook - column
    if u.annotation = a then blanks gap ++ hanging text kind
    else blanks gap ++ '│' :: labelRow a text kind (column + gap + 1) rest

end Underline

end Stencil.Excerpt
