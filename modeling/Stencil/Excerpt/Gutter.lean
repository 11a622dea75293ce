import Stencil.Excerpt.Annotation

/-! The gutter between line numbers and text, where spans of more than one line are drawn. -/

set_option autoImplicit false

namespace Stencil.Excerpt

/-- What a row of a label stands for: a label of one line, or the first or a later line of a longer one. -/
inductive LabelRow where
  | only
  | first
  | later
  deriving DecidableEq, Repr

def blanks (count : Nat) : List Char := List.replicate count ' '

def bars (count : Nat) : List Char := List.replicate count '─'

def gutterSpans (annotations : List Annotation) (line : Line) : List Annotation :=
  annotations.filter (·.inGutter line)

/-- The most spans drawn in the gutter beside any of the lines. -/
def gutterDepth (annotations : List Annotation) (lines : List Line) : Nat :=
  (lines.map fun line => ((gutterSpans annotations line).filter (!·.within line)).length).foldl max 0

/-- The marks of the gutter beside a line, for spans of which `index` come before; whether they end in an arrow. -/
def lineMarks (depth : Nat) (line : Line) (index : Nat) : List Annotation → List Char × Bool
  | [] => ([], false)
  | a :: rest =>
    if a.opens line then ('╭' :: bars (depth - index) ++ ['▶'], true)
    else if a.closes line then ((if a.text.isEmpty then '╰' else '├') :: bars (depth - index) ++ ['▶'], true)
    else
      let (marks, arrow) := lineMarks depth line (index + 1) rest
      ((if a.passes line then '│' else ' ') :: marks, arrow)

def lineGutter (depth : Nat) (line : Line) (annotations : List Annotation) : List Char :=
  if depth = 0 then []
  else
    let (marks, arrow) := lineMarks depth line 0 (gutterSpans annotations line)
    marks ++ blanks ((if arrow then 1 else 3) + (depth - marks.length))

/-- The marks of the gutter beside a row of labels, and the columns they are counted as. -/
def labelMarks (depth : Nat) (row : LabelRow) (line : Line) (index : Nat) : List Annotation → List Char × Nat
  | [] => ([], 0)
  | a :: rest =>
    if !a.within line && a.closes line then
      let width := depth - index + 2
      match row with
      | .later => (blanks width, width + 1)
      | .first => ('╰' :: bars (width - 1), width + 1)
      | .only => ('╰' :: bars width, width + 1)
    else
      let (marks, columns) := labelMarks depth row line (index + 1) rest
      ('│' :: marks, columns + 1)

def labelGutter (depth : Nat) (row : LabelRow) (line : Line) (annotations : List Annotation) : List Char :=
  if depth = 0 then []
  else
    let (marks, columns) := labelMarks depth row line 0 (gutterSpans annotations line)
    marks ++ blanks (depth + 3 - columns)

end Stencil.Excerpt
