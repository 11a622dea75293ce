import Stencil.Decimal.Reader
import Stencil.Excerpt.Layout
import Stencil.Text.Wrap

/-! Diagnostics as text: the message, the excerpts that the labels point into, and the advice. -/

set_option autoImplicit false

namespace Stencil

/-- How reports are laid out: the columns that messages are wrapped at, and the lines shown around a label. -/
structure Formatter where
  width : Nat := 200
  contextLines : Nat := 1
  deriving DecidableEq, Repr

namespace Formatter

open Text (isBlank trim trimEnd)

def messageRows (formatter : Formatter) (message : String) : List (List Char) :=
  ({ width := formatter.width - 2, first := "  × ".toList, later := "  │ ".toList } : Text.Margins).wrap
    message.toList

def helpRows (formatter : Formatter) (help : String) : List (List Char) :=
  ({ width := formatter.width - 2, first := "  help: ".toList, later := "        ".toList } : Text.Margins).wrap
    help.toList

def lineNumber? (row : List Char) : Option Nat :=
  (Text.splitFirst '│' row).bind fun (cell, _) => Decimal.readNat? (trim cell)

def isHeader (row : List Char) : Bool := trimEnd (row.dropWhile (· == ' ')) == "╭────".toList

/-- The upper border of an excerpt with a line and column in it. -/
def locatedHeader (row : List Char) (position : Nat × Nat) : List Char :=
  row.takeWhile (· == ' ') ++ ("╭─[" ++ toString position.1 ++ ":" ++ toString position.2 ++ "]").toList

/-- Puts into every upper border the first of the sorted positions that is not before the line below the border. -/
def locateHeaders (positions : List (Nat × Nat)) : List (List Char) → List (List Char)
  | [] => []
  | row :: rows =>
    let position := if isHeader row then
        (rows.head?.bind lineNumber?).bind fun number => positions.find? (number ≤ ·.1)
      else none
    position.elim row (locatedHeader row) :: locateHeaders positions rows

/-- Whether a position is not after another, by line and then by column. -/
def positionLe (a b : Nat × Nat) : Bool := a.1 < b.1 || (a.1 == b.1 && a.2 ≤ b.2)

/-- The rows of a report. Every upper border of an excerpt tells where the earliest label in it starts. -/
def rows (formatter : Formatter) (diagnostic : Diagnostic) : List (List Char) :=
  let positions := (diagnostic.labels.map (·.span.lineColumn diagnostic.source)).mergeSort positionLe
  let excerpts :=
    if diagnostic.labels.isEmpty then []
    else Excerpt.rows diagnostic.source.toList formatter.contextLines
      (diagnostic.labels.map Excerpt.Annotation.ofLabel)
  let drawn := formatter.messageRows diagnostic.message ++ excerpts ++
    diagnostic.help.elim [] formatter.helpRows
  locateHeaders positions (drawn.flatMap (Text.splitOn '\n'))

/-- A report: its rows, each with a line end. -/
def report (formatter : Formatter) (diagnostic : Diagnostic) : String :=
  String.ofList ((formatter.rows diagnostic).flatMap (· ++ ['\n']))

end Formatter

end Stencil
