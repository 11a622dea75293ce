import Stencil.Text.Hexadecimal

/-! The four kinds of strings of TOML documents: with or without escapes, on one line or on more. -/

set_option autoImplicit false

namespace Stencil.Toml

/-- A blank within a line. -/
def isSpace (c : Char) : Bool := c == ' ' || c == '\t'

def skipSpace (cs : List Char) : List Char := cs.dropWhile isSpace

/-- A character that may stand in a comment or a string. -/
def isPlain (c : Char) : Bool := c == '\t' || (0x20 ≤ c.toNat && c.toNat != 0x7F)

/-- The text after a line end, if one stands at the start. -/
def lineEnd? : List Char → Option (List Char)
  | '\n' :: cs => some cs
  | '\r' :: '\n' :: cs => some cs
  | _ => none

/-- The character that a letter after a backslash stands for. -/
def plainEscape? : Char → Option Char
  | 'b' => some '\x08'
  | 't' => some '\t'
  | 'n' => some '\n'
  | 'f' => some '\x0c'
  | 'r' => some '\r'
  | '"' => some '"'
  | '\\' => some '\\'
  | _ => none

/-- The character of a code point in hexadecimal digits. -/
def codePoint? (digits : List Char) : Option Char :=
  (Text.ofHexDigits? 0 digits).bind fun n => if n.isValidChar then some (Char.ofNat n) else none

/-- The character at the start of a text after a backslash, and how many characters name it. -/
def escape? : List Char → Option (Char × Nat)
  | 'u' :: cs => if 4 ≤ cs.length then (codePoint? (cs.take 4)).map (·, 5) else none
  | 'U' :: cs => if 8 ≤ cs.length then (codePoint? (cs.take 8)).map (·, 9) else none
  | c :: _ => (plainEscape? c).map (·, 1)
  | [] => none

/-- Reads a string with escapes up to its closing quote mark, after passing over `skip` characters. -/
def readBasic? : (skip : Nat) → List Char → Option (List Char × List Char)
  | _, [] => none
  | skip + 1, _ :: cs => readBasic? skip cs
  | 0, c :: cs =>
    if c = '"' then some ([], cs)
    else if c = '\\' then
      match escape? cs with
      | some (char, length) => (readBasic? length cs).map fun (text, rest) => (char :: text, rest)
      | none => none
    else if isPlain c then (readBasic? 0 cs).map fun (text, rest) => (c :: text, rest)
    else none

/-- Reads a string without escapes up to its closing quote mark. -/
def readLiteral? : List Char → Option (List Char × List Char)
  | [] => none
  | c :: cs =>
    if c = '\'' then some ([], cs)
    else if isPlain c then (readLiteral? cs).map fun (text, rest) => (c :: text, rest)
    else none

/-- The quote marks, at most two, that belong to a string of more lines although they stand where it is closed. -/
def closing (quote : Char) : List Char → List Char × List Char
  | a :: b :: cs =>
    if a = quote then if b = quote then ([a, b], cs) else ([a], b :: cs) else ([], a :: b :: cs)
  | [a] => if a = quote then ([a], []) else ([], [a])
  | [] => ([], [])

/-- How the next characters of a string of more lines are read: as they are, passed over, or passed over as long
as they are blanks and line ends. -/
inductive Passing where
  | none
  | count (n : Nat)
  | blanks

/-- Reads a string of more lines with escapes up to its closing quote marks. A backslash at the end of a line takes
away the blanks and line ends after it. -/
def readLongBasic? : Passing → List Char → Option (List Char × List Char)
  | .count (n + 1), _ :: cs => readLongBasic? (.count n) cs
  | passing, '\r' :: '\n' :: cs =>
    match passing with
    | .blanks => readLongBasic? .blanks cs
    | _ => (readLongBasic? .none cs).map fun (text, rest) => ('\n' :: text, rest)
  | passing, '\n' :: cs =>
    match passing with
    | .blanks => readLongBasic? .blanks cs
    | _ => (readLongBasic? .none cs).map fun (text, rest) => ('\n' :: text, rest)
  | _, '"' :: '"' :: '"' :: cs => some (closing '"' cs)
  | _, '\\' :: cs =>
    if (lineEnd? (skipSpace cs)).isSome then readLongBasic? .blanks cs
    else match escape? cs with
      | some (char, length) => (readLongBasic? (.count length) cs).map fun (text, rest) => (char :: text, rest)
      | none => none
  | passing, c :: cs =>
    match passing, isSpace c with
    | .blanks, true => readLongBasic? .blanks cs
    | _, _ => if isPlain c then (readLongBasic? .none cs).map fun (text, rest) => (c :: text, rest) else none
  | _, [] => none

/-- Reads a string of more lines without escapes up to its closing quote marks. -/
def readLongLiteral? : List Char → Option (List Char × List Char)
  | '\r' :: '\n' :: cs => (readLongLiteral? cs).map fun (text, rest) => ('\n' :: text, rest)
  | '\n' :: cs => (readLongLiteral? cs).map fun (text, rest) => ('\n' :: text, rest)
  | '\'' :: '\'' :: '\'' :: cs => some (closing '\'' cs)
  | c :: cs => if isPlain c then (readLongLiteral? cs).map fun (text, rest) => (c :: text, rest) else none
  | [] => none

def readShort? : List Char → Option (List Char × List Char)
  | '"' :: cs => readBasic? 0 cs
  | '\'' :: cs => readLiteral? cs
  | _ => none

/-- Reads a string of any kind. A line end right behind the opening marks of a string of more lines is left out. -/
def readString? : List Char → Option (List Char × List Char)
  | '"' :: '"' :: '"' :: cs => readLongBasic? .none ((lineEnd? cs).getD cs)
  | '\'' :: '\'' :: '\'' :: cs => readLongLiteral? ((lineEnd? cs).getD cs)
  | cs => readShort? cs

end Stencil.Toml
