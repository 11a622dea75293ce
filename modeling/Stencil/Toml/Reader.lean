import Stencil.Toml.Quoted
import Stencil.Toml.Scalar
import Stencil.Toml.Table

/-! Reading TOML documents. -/

set_option autoImplicit false

namespace Stencil.Toml

def isKeyChar (c : Char) : Bool := c.isAlphanum || c == '_' || c == '-'

def readKeyPart? (cs : List Char) : Option (String × List Char) :=
  match cs.takeWhile isKeyChar with
  | [] => (readShort? cs).map fun (text, rest) => (String.ofList text, rest)
  | name => some (String.ofList name, cs.dropWhile isKeyChar)

/-- Reads a key of one or more parts with points between them. -/
def readKey? (cs : List Char) : Option (List String × List Char) :=
  match readKeyPart? (skipSpace cs) with
  | none => none
  | some (part, after) =>
    match skipSpace after with
    | '.' :: rest =>
      if rest.length < cs.length then (readKey? rest).map fun (parts, rest) => (part :: parts, rest) else none
    | rest => some ([part], rest)
termination_by cs.length

/-- How many parts a key has at most, and how many arrays and inline tables may stand around a value. -/
def maxDepth : Nat := 79

/-- Reads a key: the parts before the last, and the last. -/
def readPath? (cs : List Char) : Option ((List String × String) × List Char) :=
  (readKey? cs).bind fun (parts, rest) =>
    match parts.reverse with
    | [] => none
    | key :: path => if maxDepth < parts.length then none else some ((path.reverse, key), rest)

def skipComment : List Char → List Char
  | '#' :: cs => cs.dropWhile isPlain
  | cs => cs

/-- Skips blanks and a comment, up to a line end and past it, or to the end of the text. -/
def skipLineEnd? (cs : List Char) : Option (List Char) :=
  match skipComment (skipSpace cs) with
  | [] => some []
  | rest => lineEnd? rest

/-- Skips blanks, line ends and comments that end with a line. -/
def skipLines (cs : List Char) : List Char :=
  let rest := skipSpace cs
  match lineEnd? (skipComment rest) with
  | none => rest
  | some after => if after.length < cs.length then skipLines after else rest
termination_by cs.length

/-- Reads the values of an array up to its closing bracket; a comma may stand behind the last. -/
def readItems? (value : List Char → Option (Item × List Char)) (cs : List Char) :
    Option (List Item × List Char) :=
  match skipLines cs with
  | ']' :: rest => some ([], rest)
  | start =>
    match value start with
    | none => none
    | some (first, after) =>
      match skipLines after with
      | ']' :: rest => some ([first], rest)
      | ',' :: rest =>
        if rest.length < cs.length then (readItems? value rest).map fun (others, rest) => (first :: others, rest)
        else none
      | _ => none
termination_by cs.length

def readAssignment? (value : List Char → Option (Item × List Char)) (cs : List Char) :
    Option (Table.Assignment × List Char) :=
  match readPath? cs with
  | some ((path, key), '=' :: after) => (value (skipSpace after)).map fun (item, rest) => (⟨path, key, item⟩, rest)
  | _ => none

/-- Reads the entries of an inline table, at least one, up to its closing brace. -/
def readEntries? (value : List Char → Option (Item × List Char)) (cs : List Char) :
    Option (List Table.Assignment × List Char) :=
  match readAssignment? value cs with
  | none => none
  | some (first, after) =>
    match skipSpace after with
    | '\x7d' :: rest => some ([first], rest)
    | ',' :: rest =>
      if rest.length < cs.length then (readEntries? value rest).map fun (others, rest) => (first :: others, rest)
      else none
    | _ => none
termination_by cs.length

def readInline? (value : List Char → Option (Item × List Char)) (cs : List Char) : Option (Item × List Char) :=
  match skipSpace cs with
  | '\x7d' :: rest => some (.table .inline [], rest)
  | start => (readEntries? value start).bind fun (entries, rest) =>
    (Table.insertAll [] entries).map fun table => (.table .inline table, rest)

/-- Reads a value that is neither an array nor an inline table. -/
def readPlain? (cs : List Char) : Option (Item × List Char) :=
  match cs with
  | '"' :: _ | '\'' :: _ => (readString? cs).map fun (text, rest) => (.plain (.string (String.ofList text)), rest)
  | _ => (readWord? cs).map fun (json, rest) => (.plain json, rest)

/-- Reads a value with at most `depth` arrays and inline tables around any part of it. -/
def readValue? : (depth : Nat) → List Char → Option (Item × List Char)
  | 0, cs => readPlain? cs
  | depth + 1, cs =>
    match cs with
    | '[' :: rest => (readItems? (readValue? depth) rest).map fun (items, rest) => (.array items, rest)
    | '\x7b' :: rest => readInline? (readValue? depth) rest
    | _ => readPlain? cs

inductive Line where
  | table (path : List String) (key : String)
  | element (path : List String) (key : String)
  | assignment (a : Table.Assignment)

def readHeader? (cs : List Char) : Option (Line × List Char) :=
  match cs with
  | '[' :: cs =>
    match readPath? cs with
    | some ((path, key), ']' :: ']' :: rest) => some (.element path key, rest)
    | _ => none
  | _ =>
    match readPath? cs with
    | some ((path, key), ']' :: rest) => some (.table path key, rest)
    | _ => none

def readLine? : List Char → Option (Line × List Char)
  | '[' :: cs => readHeader? cs
  | cs => (readAssignment? (readValue? maxDepth) cs).map fun (a, rest) => (.assignment a, rest)

def readLines? (cs : List Char) : Option (List Line) :=
  match skipLines cs with
  | [] => some []
  | '#' :: comment => if (skipComment ('#' :: comment)).isEmpty then some [] else none
  | start =>
    match readLine? start with
    | none => none
    | some (line, after) =>
      match skipLineEnd? after with
      | none => none
      | some rest => if rest.length < cs.length then (readLines? rest).map (line :: ·) else none
termination_by cs.length

def leadingAssignments : List Line → List Table.Assignment
  | .assignment a :: rest => a :: leadingAssignments rest
  | _ => []

/-- Adds the tables of all headers, each with the assignments below it. -/
def addTables (root : Table) : List Line → Option Table
  | [] => some root
  | .assignment _ :: rest => addTables root rest
  | .table path key :: rest => (root.define path key (leadingAssignments rest)).bind (addTables · rest)
  | .element path key :: rest => (root.append path key (leadingAssignments rest)).bind (addTables · rest)

/-- Reads a document. A byte order mark may stand at its start. -/
def read? (text : String) : Option Json := do
  let cs := match text.toList with
    | '\ufeff' :: cs => cs
    | cs => cs
  let lines ← readLines? cs
  let root ← Table.insertAll [] (leadingAssignments lines)
  let table ← addTables root lines
  table.toJson?

end Stencil.Toml
