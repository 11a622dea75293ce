import Stencil.Diagnostic
import Stencil.Excerpt.Line
import Stencil.Text.Search

/-! Labelled spans laid over numbered lines: which lines a span starts on, ends on or passes by. -/

set_option autoImplicit false

namespace Stencil.Excerpt

/-- A span of a source and the lines of its label, none if it has no label. -/
structure Annotation where
  start : Nat
  length : Nat
  text : List (List Char)
  deriving DecidableEq, Repr

namespace Annotation

/-- The annotation for a label; a label without text has none. -/
def ofLabel (label : Label) : Annotation where
  start := label.span.start
  length := label.span.length
  text := if label.text.isEmpty then [] else Text.splitOn '\n' label.text.toList

def stop (a : Annotation) : Nat := a.start + a.length

/-- Where the span ends, an empty span counted as one byte. -/
def shownStop (a : Annotation) : Nat := a.start + max a.length 1

def startsOn (a : Annotation) (line : Line) : Bool := line.start ≤ a.start && a.start < line.stop

def endsOn (a : Annotation) (line : Line) : Bool := line.start < a.shownStop && a.shownStop ≤ line.stop

def touches (a : Annotation) (line : Line) : Bool :=
  a.startsOn line || (a.start < line.start && line.stop < a.shownStop) || a.endsOn line

def within (a : Annotation) (line : Line) : Bool := line.start ≤ a.start && a.stop ≤ line.stop

/-- Whether the span shows in the gutter beside a line: it does not both start and end there. -/
def inGutter (a : Annotation) (line : Line) : Bool :=
  a.touches line && !(a.startsOn line && a.endsOn line)

/-- Whether the span starts before a line and ends after it. -/
def passes (a : Annotation) (line : Line) : Bool := a.start < line.start && line.stop < a.stop

def opens (a : Annotation) (line : Line) : Bool := line.start ≤ a.start

/-- Whether the end of the span lies on a line or at one of its ends. -/
def closes (a : Annotation) (line : Line) : Bool := line.start ≤ a.stop && a.stop ≤ line.stop

end Annotation

end Stencil.Excerpt
