import Stencil.Text.Class

/-! The modes a pattern is read in.

A pattern can switch modes on and off by the letters of a group such as `(?x-u)`, for the group or for the rest
of the group around it. -/

set_option autoImplicit false

namespace Stencil.Log.Pattern

structure Modes where
  /-- Letters match whatever their case. -/
  ignoreCase : Bool
  /-- The pattern matches characters; otherwise it matches bytes. -/
  unicode : Bool
  /-- Blanks and comments do not count. -/
  verbose : Bool
  deriving DecidableEq, Repr

namespace Modes

def default : Modes := ⟨false, true, false⟩

/-- Whether case is to be ignored for all characters, which no pattern here can ask for. -/
def foldsCharacters (modes : Modes) : Bool := modes.ignoreCase && modes.unicode

/-- Drops blanks and comments, which end with their line. -/
def skipComments (inComment : Bool) : List Char → List Char
  | [] => []
  | c :: cs =>
    if inComment then skipComments (c != '\n') cs
    else if Text.isBlank c then skipComments false cs
    else if c == '#' then skipComments true cs
    else c :: cs

def skip (modes : Modes) (cs : List Char) : List Char := if modes.verbose then skipComments false cs else cs

/-- The letters of the modes, and the mark before those to be switched off. -/
def letters : List Char := ['i', 'm', 's', 'U', 'u', 'R', 'x', '-']

/-- The modes after letters have switched some of them: each letter stands once, and the mark not at the end. -/
def switch? (modes : Modes) (text : List Char) : Option Modes :=
  if text.all letters.contains && decide text.Nodup && text.getLast? != some '-' then
    let (on, off) := (text.takeWhile (· != '-'), text.dropWhile (· != '-'))
    let state (letter : Char) (before : Bool) := on.contains letter || (before && !off.contains letter)
    some ⟨state 'i' modes.ignoreCase, state 'u' modes.unicode, state 'x' modes.verbose⟩
  else none

end Modes

end Stencil.Log.Pattern
