import Stencil.Text.Utf8

/-! The part of a source that is shown around a span: the lines that the span touches and some lines before
and after them. Any of `\n`, `\r\n` and `\r` ends a line here. -/

set_option autoImplicit false

namespace Stencil.Excerpt

/-- A place in a source: the last byte of a line end, or any byte that is none. -/
structure Place where
  offset : Nat
  endsLine : Bool

def placesFrom (offset : Nat) : List Char → List Place
  | [] => []
  | '\r' :: '\n' :: cs => ⟨offset + 1, true⟩ :: placesFrom (offset + 2) cs
  | c :: cs =>
    if c = '\r' ∨ c = '\n' then ⟨offset, true⟩ :: placesFrom (offset + 1) cs
    else (List.range c.utf8Size).map (⟨offset + ·, false⟩) ++ placesFrom (offset + c.utf8Size) cs

/-- What is known of the window while the source is read. `starts` holds the starts of the last whole lines before
the span, as many as are shown; `line` counts the lines before those and `lines` all line ends; `after` counts
the lines shown after the line in which the span ends. -/
structure Progress where
  offset : Nat := 0
  line : Nat := 0
  lines : Nat := 0
  lineStart : Nat := 0
  starts : List Nat := []
  passed : Bool := false
  lastLineEnded : Bool := false
  after : Nat := 0
  finished : Bool := false

namespace Progress

/-- Keeps the last `count` starts, and counts the lines that are dropped. -/
def keepStarts (p : Progress) (count : Nat) : Progress :=
  if count < p.starts.length then { p with starts := p.starts.drop 1, line := p.line + 1 } else p

def endLine (p : Progress) (start length context : Nat) (place : Nat) : Progress :=
  let p := { p with lines := p.lines + 1 }
  let p :=
    if place < start then { p with starts := p.starts ++ [p.lineStart] }.keepStarts context
    else if start + (length - 1) ≤ place ∧ p.passed then
      let p := if p.lastLineEnded then { p with after := p.after + 1 } else { p with lastLineEnded := true }
      { p with finished := context ≤ p.after }
    else p
  { p with lineStart := place + 1 }

def next (p : Progress) (start length context : Nat) (place : Place) : Progress :=
  let p := if place.endsLine then p.endLine start length context place.offset else p
  let p :=
    if !p.finished && start + length - 1 ≤ place.offset then
      { p with passed := true, finished := context ≤ p.after }
    else p
  { p with offset := place.offset + 1 }

def run (p : Progress) (start length context : Nat) : List Place → Progress
  | [] => p
  | place :: places =>
    let q := p.next start length context place
    if q.finished then q else q.run start length context places

end Progress

/-- A part of a source: where it starts, its text, the number of lines before it and the number of line ends up to
its end. -/
structure Window where
  start : Nat
  text : List Char
  line : Nat
  lineEnds : Nat

/-- The characters between two byte offsets of a text that starts at an offset. A character cut at its end is
shown as one replacement character, one cut at its start as one for each byte. -/
def cutBytes (start stop : Nat) : (offset : Nat) → List Char → List Char
  | _, [] => []
  | offset, c :: cs =>
    let next := offset + c.utf8Size
    let shown :=
      if next ≤ start ∨ stop ≤ offset then []
      else if offset < start then List.replicate (min next stop - start) '\ufffd'
      else if stop < next then ['\ufffd']
      else [c]
    shown ++ cutBytes start stop next cs

/-- The window of a span with `context` lines around it, if the source reaches to the end of the span. -/
def Window.read? (source : List Char) (start length context : Nat) : Option Window :=
  let p := ({} : Progress).run start length context (placesFrom 0 source)
  if start + length - 1 ≤ p.offset then
    let first := p.starts.headD (if context = 0 then start else 0)
    some ⟨first, cutBytes first p.offset 0 source, p.line, p.lines⟩
  else none

end Stencil.Excerpt
