import Stencil.Json.Number
import Stencil.Text.Hexadecimal

/-! Reading JSON documents. -/

set_option autoImplicit false

namespace Stencil.Json

def isSpace (c : Char) : Bool := c == ' ' || c == '\n' || c == '\t' || c == '\r'

def skipSpace (cs : List Char) : List Char := cs.dropWhile isSpace

def readUnit? (a b c d : Char) : Option Nat := Text.ofHexDigits? 0 [a, b, c, d]

/-- The character that a letter after a backslash stands for. -/
def plainEscape? : Char → Option Char
  | '"' => some '"'
  | '\\' => some '\\'
  | '/' => some '/'
  | 'b' => some '\x08'
  | 'f' => some '\x0c'
  | 'n' => some '\n'
  | 'r' => some '\r'
  | 't' => some '\t'
  | _ => none

def isHighSurrogate (n : Nat) : Bool := 0xD800 ≤ n && n < 0xDC00

def isLowSurrogate (n : Nat) : Bool := 0xDC00 ≤ n && n < 0xE000

/-- The character of one escaped unit, if it is none of a pair. -/
def unitChar? (n : Nat) : Option Char :=
  if isHighSurrogate n || isLowSurrogate n then none else some (Char.ofNat n)

def pairChar? (high low : Nat) : Option Char :=
  if isHighSurrogate high && isLowSurrogate low then
    some (Char.ofNat (0x10000 + (high - 0xD800) * 0x400 + (low - 0xDC00)))
  else none

/-- Reads the inside of a string up to its closing quote mark. -/
def readChars? : List Char → Option (List Char × List Char)
  | '"' :: rest => some ([], rest)
  | '\\' :: 'u' :: a :: b :: c :: d :: rest =>
    match readUnit? a b c d with
    | none => none
    | some first =>
      match unitChar? first with
      | some char => (readChars? rest).map fun (cs, after) => (char :: cs, after)
      | none =>
        match rest with
        | '\\' :: 'u' :: e :: f :: g :: h :: rest =>
          match (readUnit? e f g h).bind (pairChar? first) with
          | some char => (readChars? rest).map fun (cs, after) => (char :: cs, after)
          | none => none
        | _ => none
  | '\\' :: c :: rest =>
    match plainEscape? c with
    | some char => (readChars? rest).map fun (cs, after) => (char :: cs, after)
    | none => none
  | c :: rest =>
    if c.toNat < 0x20 then none else (readChars? rest).map fun (cs, after) => (c :: cs, after)
  | [] => none

def readString? : List Char → Option (String × List Char)
  | '"' :: rest => (readChars? rest).map fun (cs, after) => (String.ofList cs, after)
  | _ => none

def readScalar? : List Char → Option (Json × List Char)
  | 'n' :: 'u' :: 'l' :: 'l' :: rest => some (.null, rest)
  | 't' :: 'r' :: 'u' :: 'e' :: rest => some (.bool true, rest)
  | 'f' :: 'a' :: 'l' :: 's' :: 'e' :: rest => some (.bool false, rest)
  | '"' :: rest => (readString? ('"' :: rest)).map fun (s, after) => (.string s, after)
  | cs => (readNumber? cs).map fun (n, after) => (.number n, after)

/-- Reads parts with commas between them, at least one, up to a closing mark. -/
def readParts? {α : Type} (part : List Char → Option (α × List Char)) (close : Char) (cs : List Char) :
    Option (List α × List Char) :=
  match part (skipSpace cs) with
  | none => none
  | some (first, after) =>
    match skipSpace after with
    | [] => none
    | c :: rest =>
      if c = close then some ([first], rest)
      else if c = ',' then
        if rest.length < cs.length then
          (readParts? part close rest).map fun (others, after) => (first :: others, after)
        else none
      else none
termination_by cs.length

/-- Reads parts with commas between them, or none, up to a closing mark. -/
def readList? {α : Type} (part : List Char → Option (α × List Char)) (close : Char) (cs : List Char) :
    Option (List α × List Char) :=
  match skipSpace cs with
  | [] => none
  | c :: rest => if c = close then some ([], rest) else readParts? part close (c :: rest)

/-- Reads an entry of an object: a key, a colon and a value. -/
def readMember? (value : List Char → Option (Json × List Char)) (cs : List Char) :
    Option ((String × Json) × List Char) :=
  match readString? cs with
  | none => none
  | some (key, after) =>
    match skipSpace after with
    | ':' :: rest => (value (skipSpace rest)).map fun (v, after) => ((key, v), after)
    | _ => none

/-- Reads a value with at most `depth` arrays and objects around any part of it. -/
def readValue? : (depth : Nat) → List Char → Option (Json × List Char)
  | 0, cs => readScalar? cs
  | depth + 1, cs =>
    match cs with
    | '[' :: rest => (readList? (readValue? depth) ']' rest).map fun (items, after) => (.array items, after)
    | '\x7b' :: rest =>
      (readList? (readMember? (readValue? depth)) '\x7d' rest).map fun (entries, after) =>
        (.object (Entries.ofPairs entries), after)
    | cs => readScalar? cs

/-- How many arrays and objects may stand around a part of a document. -/
def maxDepth : Nat := 127

/-- Reads a document: one value with blanks around it. -/
def read? (text : String) : Option Json :=
  (readValue? maxDepth (skipSpace text.toList)).bind fun (json, rest) =>
    if (skipSpace rest).isEmpty then some json else none

end Stencil.Json
