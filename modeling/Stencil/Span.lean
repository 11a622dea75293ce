import Stencil.Text.Utf8

/-! Spans of a source text, as byte offsets, and the lines and columns they stand for. -/

set_option autoImplicit false

namespace Stencil

/-- The bytes from `start` up to, and without, `stop`. -/
structure Span where
  start : Nat
  stop : Nat
  deriving DecidableEq, Repr, Inhabited

namespace Span

def ofLength (start length : Nat) : Span := ⟨start, start + length⟩

def length (span : Span) : Nat := span.stop - span.start

def isEmpty (span : Span) : Bool := span.start == span.stop

def join (a b : Span) : Span := ⟨min a.start b.start, max a.stop b.stop⟩

def shift (span : Span) (offset : Nat) : Span := ⟨span.start + offset, span.stop + offset⟩

/-- The covered text, if both ends are character boundaries of the source. -/
def slice? (span : Span) (source : String) : Option String :=
  (Text.sliceBytes? source.toList span.start span.stop).map String.ofList

/-- The line and column of the position after a text, both counted from one, the column in characters. -/
def positionAfter (before : List Char) : Nat × Nat :=
  (before.count '\n' + 1, (before.reverse.takeWhile (· != '\n')).length + 1)

/-- The line and column where the span starts. A start past the end is read as the end, and so is
a start inside a character. -/
def lineColumn (span : Span) (source : String) : Nat × Nat :=
  let cs := source.toList
  positionAfter ((Text.takeBytes? cs (min span.start (Text.byteLength cs))).getD cs)

/-- The written form of a span: both offsets with two points between them. -/
def text (span : Span) : String :=
  toString span.start ++ ".." ++ toString span.stop

end Span

end Stencil
