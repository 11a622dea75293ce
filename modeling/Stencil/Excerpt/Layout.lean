import Stencil.Excerpt.Underline

/-! Excerpts of a source: numbered lines with the labels of spans drawn below and beside them. -/

set_option autoImplicit false

namespace Stencil.Excerpt

/-- The rows of a label of one line or of more, each with its kind. -/
def labelRows : List (List Char) → List (List Char × LabelRow)
  | [] => []
  | [text] => [(text, .only)]
  | text :: rest => (text, .first) :: rest.map (·, .later)

/-- What an excerpt is drawn with: the columns of its line numbers, the depth of its gutter and its spans. -/
structure Canvas where
  numberWidth : Nat
  depth : Nat
  annotations : List Annotation

namespace Canvas

def ofLines (lines : List Line) (annotations : List Annotation) : Canvas where
  numberWidth := (toString (lines.getLast?.elim 0 (·.number))).length
  depth := gutterDepth annotations lines
  annotations := annotations

def numberCell (canvas : Canvas) (number : Nat) : List Char :=
  let digits := (toString number).toList
  ' ' :: blanks (canvas.numberWidth - digits.length) ++ digits ++ [' ', '│', ' ']

def emptyCell (canvas : Canvas) : List Char := ' ' :: blanks canvas.numberWidth ++ [' ', '·', ' ']

/-- The rows of underlines and labels below a line, for spans within it. -/
def underlineRows (canvas : Canvas) (line : Line) (within : List Annotation) : List (List Char) :=
  if within.isEmpty then []
  else
    let start := canvas.emptyCell ++ labelGutter canvas.depth .only line canvas.annotations
    let underlines := Underline.layOut line 0 within
    (start ++ Underline.row 0 underlines) ::
      within.reverse.flatMap fun a =>
        (labelRows a.text).map fun (text, kind) => start ++ Underline.labelRow a text kind 0 underlines

def closing (text : List Char) : LabelRow → List Char
  | .only => '─' :: ' ' :: text
  | .first => '┤' :: ' ' :: text
  | .later => '│' :: ' ' :: text

/-- The rows of labels below a line, for a span of more than one line that ends there. -/
def closingRows (canvas : Canvas) (line : Line) (a : Annotation) : List (List Char) :=
  if a.closes line && !a.opens line then
    (labelRows a.text).map fun (text, kind) =>
      canvas.emptyCell ++ labelGutter canvas.depth kind line canvas.annotations ++ closing text kind
  else []

/-- The rows for a line: its text, then the labels below it. -/
def lineRows (canvas : Canvas) (line : Line) : List (List Char) :=
  let shown := canvas.annotations.filter (·.touches line)
  (canvas.numberCell line.number ++ lineGutter canvas.depth line canvas.annotations ++
      Text.expandTabs tabWidth line.text) ::
    canvas.underlineRows line (shown.filter (·.within line)) ++
    (shown.filter (!·.within line)).flatMap (canvas.closingRows line)

def rows (canvas : Canvas) (lines : List Line) : List (List Char) :=
  (blanks (canvas.numberWidth + 2) ++ '╭' :: bars 4) :: lines.flatMap canvas.lineRows ++
    [blanks (canvas.numberWidth + 2) ++ '╰' :: bars 4]

end Canvas

/-- A stretch of the source that is shown in one excerpt, and its window. -/
structure Stretch where
  start : Nat
  length : Nat
  window : Window

/-- The stretch of a span, if the source reaches to its end. -/
def Stretch.read? (source : List Char) (start length context : Nat) : Option Stretch :=
  (Window.read? source start length context).map (⟨start, length, ·⟩)

/-- Adds a stretch after others, given last first: it is joined to the last if their windows meet. -/
def joinStretch (source : List Char) (context : Nat) (next : Stretch) : List Stretch → List Stretch
  | [] => [next]
  | last :: earlier =>
    let stop := max (last.start + last.length) (next.start + next.length)
    let joined :=
      if next.window.line ≤ last.window.line + last.window.lineEnds then
        Stretch.read? source last.start (stop - last.start) context
      else none
    match joined with
    | some both => both :: earlier
    | none => next :: last :: earlier

/-- The stretches for spans in the order of their starts, or the first span that the source does not reach. -/
def stretches (source : List Char) (context : Nat) (found : List Stretch) :
    List Annotation → Except Annotation (List Stretch)
  | [] => .ok found.reverse
  | a :: rest =>
    match Stretch.read? source a.start a.length context with
    | none => .error a
    | some next => stretches source context (joinStretch source context next found) rest

/-- The row that stands for all excerpts if a span lies outside the source. -/
def unreadableRow (a : Annotation) : List Char :=
  let name := if a.text.isEmpty then "<none>".toList else ['\n'].intercalate a.text
  "  [Failed to read contents for label ".toList ++ '\x60' :: name ++
    ("\x60 (offset: " ++ toString a.start ++ ", length: " ++ toString a.length ++ "): OutOfBounds]").toList

/-- The rows of all excerpts that show the given spans with `context` lines around them. -/
def rows (source : List Char) (context : Nat) (annotations : List Annotation) : List (List Char) :=
  let sorted := annotations.mergeSort fun a b => a.start ≤ b.start
  match stretches source context [] sorted with
  | .error a => [unreadableRow a]
  | .ok found =>
    found.flatMap fun stretch =>
      let lines := Line.ofWindow stretch.window
      (Canvas.ofLines lines sorted).rows lines

end Stencil.Excerpt
