import Stencil.Log.Pattern.CharClass

/-! Patterns that text is matched by: which texts are one.

A pattern is a regular expression without look-around, back references and counted repetition, in which
characters have no case, no classes and no words; bytes do. -/

set_option autoImplicit false

namespace Stencil.Log.Pattern

/-- How deep the parts of a pattern may stand in each other. -/
def maxDepth : Nat := 250

/-- A group whose closing parenthesis is still to come. -/
structure OpenGroup where
  modes : Modes
  /-- The depths of the parts of the last branch, the last first; nothing for letters that switch modes. -/
  parts : List (Option Nat)
  /-- The depths of the branches before. -/
  branches : List Nat

namespace OpenGroup

def start (modes : Modes) : OpenGroup := ⟨modes, [], []⟩

def add (depth : Nat) (group : OpenGroup) : OpenGroup := { group with parts := some depth :: group.parts }

def switchTo (modes : Modes) (group : OpenGroup) : OpenGroup :=
  { group with modes := modes, parts := none :: group.parts }

def branchDepth (group : OpenGroup) : Nat := depthOf (group.parts.map (·.getD 0))

def depth (group : OpenGroup) : Nat := depthOf (group.branchDepth :: group.branches)

def nextBranch (group : OpenGroup) : OpenGroup :=
  { group with parts := [], branches := group.branchDepth :: group.branches }

/-- Repeats the last part; letters that switch modes cannot be repeated. -/
def repeatLast? (group : OpenGroup) : Option OpenGroup :=
  match group.parts with
  | some depth :: parts => some { group with parts := some (depth + 1) :: parts }
  | _ => none

end OpenGroup

/-- What an opening parenthesis starts: a group, perhaps with a name, or letters that switch modes. -/
inductive Opening where
  | group (modes : Modes) (name : Option (List Char))
  | switch (modes : Modes)

def isGroupName : List Char → Bool
  | [] => false
  | c :: cs =>
    (c == '_' || Text.isLetter c) &&
      cs.all fun c => c == '_' || c == '.' || c == '[' || c == ']' || Text.isAlphanumeric c

/-- Reads the name of a group behind its opening mark. -/
def readName? (modes : Modes) (cs : List Char) : Option (Opening × List Char) :=
  let name := cs.takeWhile (· != '>')
  match cs.dropWhile (· != '>') with
  | _ :: rest => if isGroupName name then some (.group modes (some name), rest) else none
  | [] => none

/-- Reads letters that switch modes, for a group or on their own. -/
def readSwitch? (modes : Modes) (cs : List Char) : Option (Opening × List Char) :=
  let endsLetters (c : Char) := c == ':' || c == ')'
  let letters := cs.takeWhile (!endsLetters ·)
  (modes.switch? letters).bind fun modes =>
    match cs.dropWhile (!endsLetters ·) with
    | ':' :: rest => some (.group modes none, rest)
    | ')' :: rest => if letters.isEmpty then none else some (.switch modes, rest)
    | _ => none

/-- Reads what an opening parenthesis starts, from behind it. -/
def readOpening? (modes : Modes) (cs : List Char) : Option (Opening × List Char) :=
  match modes.skip cs with
  | '?' :: 'P' :: '<' :: rest => readName? modes rest
  | '?' :: '<' :: rest => readName? modes rest
  | '?' :: rest => readSwitch? modes rest
  | rest => some (.group modes none, rest)

/-- Drops the mark of a repetition that takes as little as it can. -/
def skipLazy : List Char → List Char
  | '?' :: rest => rest
  | rest => rest

/-- Whether the rest of a pattern is well formed, inside the groups around it; `names` are those of the groups
before. -/
def accepts (group : OpenGroup) (outer : List OpenGroup) (names : List (List Char)) (cs : List Char) : Bool :=
  let go (group : OpenGroup) (outer : List OpenGroup) (rest : List Char) :=
    if rest.length < cs.length then accepts group outer names rest else false
  match group.modes.skip cs with
  | [] => outer.isEmpty && group.depth ≤ maxDepth
  | c :: rest =>
    match c with
    | '(' =>
      match readOpening? group.modes rest with
      | some (.group modes none, rest) => go (.start modes) (group :: outer) rest
      | some (.group modes (some name), rest) =>
        if names.contains name then false
        else if rest.length < cs.length then accepts (.start modes) (group :: outer) (name :: names) rest
        else false
      | some (.switch modes, rest) => go (group.switchTo modes) outer rest
      | none => false
    | ')' =>
      match outer with
      | [] => false
      | around :: outer => go (around.add (group.depth + 1)) outer rest
    | '|' => go group.nextBranch outer rest
    | '[' =>
      match readClass? group.modes rest with
      | some (depth, rest) => go (group.add depth) outer rest
      | none => false
    | '?' | '*' | '+' =>
      match group.repeatLast? with
      | some group => go group outer (skipLazy rest)
      | none => false
    | '{' => false
    | '\\' =>
      match readEscape? group.modes rest with
      | some (atom, rest) => if atom.fits group.modes then go (group.add 0) outer rest else false
      | none => false
    | '.' => if group.modes.unicode then go (group.add 0) outer rest else false
    | '^' | '$' => go (group.add 0) outer rest
    | c => if (Atom.literal c).fits group.modes then go (group.add 0) outer rest else false
termination_by cs.length

end Pattern

/-- Whether a text is a pattern. -/
def isPattern (cs : List Char) : Bool := Pattern.accepts (.start .default) [] [] cs

end Stencil.Log
