import Stencil.Log.Pattern.Modes
import Stencil.Text.Hexadecimal

/-! The smallest parts of a pattern and the escapes that write them. -/

set_option autoImplicit false

namespace Stencil.Log.Pattern

/-- A part of a pattern that holds no other part. -/
inductive Atom where
  | literal (c : Char)
  /-- A character by the two digits of its code. -/
  | code (c : Char)
  /-- A letter for a class of characters: digits, blanks or characters of words, or all but these. -/
  | namedClass (negated : Bool)
  /-- An end of the text. -/
  | textEdge
  /-- An end of a word. -/
  | wordEdge

namespace Atom

/-- The character that the atom stands for, if it stands for one. -/
def char? : Atom → Option Char
  | literal c | code c => some c
  | _ => none

/-- Whether the atom has a meaning in the modes. Characters have no classes and words there, bytes no classes
beyond ASCII. -/
def fits (modes : Modes) : Atom → Bool
  | literal _ => !modes.foldsCharacters
  | code c => if modes.unicode then !modes.ignoreCase else c.toNat < 128
  | namedClass negated => !modes.unicode && !negated
  | textEdge => true
  | wordEdge => !modes.unicode

/-- Whether the atom has a meaning in a class of characters. -/
def fitsClass (modes : Modes) : Atom → Bool
  | literal c | code c => if modes.unicode then !modes.ignoreCase else c.toNat < 128
  | namedClass negated => !modes.unicode && !negated
  | textEdge | wordEdge => false

end Atom

/-- Reads the hexadecimal digits of a character, after the digits read before. -/
def readCode? (modes : Modes) (value : Nat) : (count : Nat) → List Char → Option (Char × List Char)
  | 0, cs => if value.isValidChar then some (Char.ofNat value, cs) else none
  | count + 1, cs =>
    match modes.skip cs with
    | [] => none
    | c :: rest => (Text.hexValue? c).bind fun digit => readCode? modes (value * 16 + digit) count rest

def controlLetters : List Char := ['a', 'f', 't', 'n', 'r', 'v']

/-- Whether a character stands for itself behind a backslash. -/
def isEscapable (c : Char) : Bool := c.toNat < 128 && !c.isAlphanum && c != '<' && c != '>'

def readEscape? (modes : Modes) : List Char → Option (Atom × List Char)
  | [] => none
  | c :: rest =>
    match c with
    | 'x' => (readCode? modes 0 2 rest).map fun (c, rest) => (.code c, rest)
    | 'u' => (readCode? modes 0 4 rest).map fun (c, rest) => (.literal c, rest)
    | 'U' => (readCode? modes 0 8 rest).map fun (c, rest) => (.literal c, rest)
    | 'd' | 's' | 'w' => some (.namedClass false, rest)
    | 'D' | 'S' | 'W' => some (.namedClass true, rest)
    | 'A' | 'z' => some (.textEdge, rest)
    | 'b' | 'B' | '<' | '>' => some (.wordEdge, rest)
    | _ => if controlLetters.contains c || isEscapable c then some (.literal c, rest) else none

end Stencil.Log.Pattern
