import Stencil.Text.Class
import Stencil.Text.Columns
import Stencil.Text.LineBreak
import Stencil.Text.Search

/-! Paragraphs wrapped to a width.

A paragraph is cut into words where a line may be broken, words are cut after hyphens and where they
are too long for a line of their own, and each line takes as many of them as fit. -/

set_option autoImplicit false

namespace Stencil.Text

/-- A character that is shown, or an escape sequence that is not. -/
inductive Glyph where
  | shown (c : Char)
  | hidden (cs : List Char)

def Glyph.text : Glyph → List Char
  | .shown c => [c]
  | .hidden cs => cs

def Glyph.width : Glyph → Nat
  | .shown c => columns c
  | .hidden _ => 0

/-- How an escape sequence goes on: not known yet, up to a final letter, or up to a bell or terminator. -/
inductive EscapePart where
  | opened
  | control
  | command (last : Char)

/-- Cuts a text into shown characters and escape sequences; `pending` is an unfinished sequence in reverse. -/
def glyphsFrom : Option (EscapePart × List Char) → List Char → List Glyph
  | none, [] => []
  | some (_, pending), [] => [.hidden pending.reverse]
  | none, c :: cs =>
    if c = '\x1b' then glyphsFrom (some (.opened, [c])) cs else .shown c :: glyphsFrom none cs
  | some (.opened, pending), c :: cs =>
    if c = '[' then glyphsFrom (some (.control, c :: pending)) cs
    else if c = ']' then glyphsFrom (some (.command c, c :: pending)) cs
    else .hidden (c :: pending).reverse :: glyphsFrom none cs
  | some (.control, pending), c :: cs =>
    if '@' ≤ c && c ≤ '~' then .hidden (c :: pending).reverse :: glyphsFrom none cs
    else glyphsFrom (some (.control, c :: pending)) cs
  | some (.command last, pending), c :: cs =>
    if c = '\x07' || (c = '\\' && last = '\x1b') then .hidden (c :: pending).reverse :: glyphsFrom none cs
    else glyphsFrom (some (.command c, c :: pending)) cs

/-- The shown characters and escape sequences of a text, in order. -/
def glyphs (cs : List Char) : List Glyph := glyphsFrom none cs

/-- The columns that a text fills, escape sequences none. -/
def displayWidth (cs : List Char) : Nat := (glyphs cs).foldl (fun total glyph => total + glyph.width) 0

structure Word where
  text : List Char
  blanks : Nat

/-- Splits off the blanks at the end of a piece of a line. -/
def Word.ofPiece (piece : List Char) : Word :=
  let blanks := (piece.reverse.takeWhile (· == ' ')).length
  ⟨piece.take (piece.length - blanks), blanks⟩

def Word.width (word : Word) : Nat := displayWidth word.text

/-- A line is not broken behind a hyphen by the line-breaking rules, nor behind a soft hyphen. -/
def allowedBreaks : List Char → List Bool → List Bool
  | c :: cs, b :: bs => (b && c != '-' && c != '\xad') :: allowedBreaks cs bs
  | _, _ => []

/-- The list with its first `true` made false. -/
def clearFirst : List Bool → List Bool
  | [] => []
  | true :: bs => false :: bs
  | false :: bs => false :: clearFirst bs

def dropLastBreak (breaks : List Bool) : List Bool := (clearFirst breaks.reverse).reverse

/-- Cuts a line into pieces behind the shown characters that are marked. An escape sequence goes with
the character after it. `piece` is the unfinished piece and `lead` the escape sequences after it, both in reverse;
`cut` tells whether the piece ends before the next shown character. -/
def piecesFrom (piece lead : List Char) (cut : Bool) : List Glyph → List Bool → List (List Char)
  | [], _ => if piece.isEmpty && lead.isEmpty then [] else [(lead ++ piece).reverse]
  | .hidden cs :: rest, breaks => piecesFrom piece (cs.reverse ++ lead) cut rest breaks
  | .shown c :: rest, breaks =>
    let following := breaks.headD false
    if cut then piece.reverse :: piecesFrom (c :: lead) [] following rest breaks.tail
    else piecesFrom (c :: lead ++ piece) [] following rest breaks.tail

def wordsOf (line : List Char) : List Word :=
  let shown := (glyphs line).filterMap fun
    | .shown c => some c
    | .hidden _ => none
  let breaks := dropLastBreak (allowedBreaks shown (breaksAfter shown))
  (piecesFrom [] [] false (glyphs line) breaks).map Word.ofPiece

/-- Cuts a word after every hyphen between two letters or numbers; `piece` is the unfinished piece in reverse. -/
def hyphenPieces (piece : List Char) : List Char → List (List Char)
  | [] => [piece.reverse]
  | [c] => [(c :: piece).reverse]
  | c :: d :: rest =>
    if c = '-' && isAlphanumeric d && (piece.head?.map isAlphanumeric).getD false then
      (c :: piece).reverse :: hyphenPieces [] (d :: rest)
    else hyphenPieces (c :: piece) (d :: rest)

/-- Cuts a word into pieces that fit the limit, a character wider than the limit alone in its piece;
`piece` is the unfinished piece in reverse and `width` its columns. -/
def chunks (limit : Nat) (piece : List Char) (width : Nat) : List Glyph → List (List Char)
  | [] => if piece.isEmpty then [] else [piece.reverse]
  | .hidden cs :: rest => chunks limit (cs.reverse ++ piece) width rest
  | .shown c :: rest =>
    if 0 < width && limit < width + columns c then piece.reverse :: chunks limit [c] (columns c) rest
    else chunks limit (c :: piece) (width + columns c) rest

/-- The pieces of one word; the blanks behind the word stay behind its last piece. -/
def wordPieces (blanks : Nat) : List (List Char) → List Word
  | [] => []
  | [piece] => [⟨piece, blanks⟩]
  | piece :: rest => ⟨piece, 0⟩ :: wordPieces blanks rest

/-- The pieces of one word between which a line may be broken. -/
def Word.split (limit : Nat) (word : Word) : List Word :=
  (wordPieces word.blanks (hyphenPieces [] word.text)).flatMap fun part =>
    if limit < part.width then wordPieces part.blanks (chunks limit [] 0 (glyphs part.text)) else [part]

/-- Fills lines from the left: a word goes on a new line if it would pass the limit, but never leaves a line
without a word. `line` is the unfinished line in reverse and `width` its columns. -/
def fitFrom (limit later : Nat) (line : List Word) (width : Nat) : List Word → List (List Word)
  | [] => [line.reverse]
  | word :: words =>
    if limit < width + word.width && !line.isEmpty then
      line.reverse :: fitFrom later later [word] (word.width + word.blanks) words
    else fitFrom limit later (word :: line) (width + word.width + word.blanks) words

/-- The text of a line of words, without the blanks behind the last one. -/
def lineText : List Word → List Char
  | [] => []
  | [word] => word.text
  | word :: words => word.text ++ List.replicate word.blanks ' ' ++ lineText words

/-- The width of a paragraph and what each of its lines starts with. -/
structure Margins where
  width : Nat
  first : List Char
  later : List Char

/-- The lines of one paragraph, without what they start with. -/
def Margins.wrapLine (margins : Margins) (line : List Char) : List (List Char) :=
  let first := margins.width - displayWidth margins.first
  let later := margins.width - displayWidth margins.later
  (fitFrom first later [] 0 (⟨[], 0⟩ :: (wordsOf line).flatMap (Word.split later))).map lineText

def Margins.wrap (margins : Margins) (text : List Char) : List (List Char) :=
  match (splitOn '\n' text).flatMap margins.wrapLine with
  | [] => []
  | line :: lines => (margins.first ++ line) :: lines.map (margins.later ++ ·)

end Stencil.Text
