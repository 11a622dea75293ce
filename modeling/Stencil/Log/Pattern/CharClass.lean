import Stencil.Log.Pattern.Atom

/-! Classes of characters in a pattern: items between brackets, with operators that join sets of them.

Reading a class gives only its depth, how many brackets, unions and operators stand around its innermost item. -/

set_option autoImplicit false

namespace Stencil.Log.Pattern

/-- The depth of parts next to each other, which count as one more part around them if they are several. -/
def depthOf : List Nat → Nat
  | [] => 0
  | [depth] => depth
  | depths => depths.foldl max 0 + 1

/-- A class whose closing bracket is still to come. -/
structure OpenClass where
  /-- Whether only hyphens have come yet. -/
  fresh : Bool
  /-- The depths of the items behind the last operator. -/
  items : List Nat
  /-- The depth of the set before the last operator. -/
  operand : Option Nat

namespace OpenClass

def start : OpenClass := ⟨true, [], none⟩

def add (depth : Nat) (cls : OpenClass) : OpenClass := { cls with fresh := false, items := depth :: cls.items }

def addHyphen (cls : OpenClass) : OpenClass := { cls with items := 0 :: cls.items }

def depth (cls : OpenClass) : Nat :=
  match cls.operand with
  | none => depthOf cls.items
  | some operand => max operand (depthOf cls.items) + 1

def next (cls : OpenClass) : OpenClass := ⟨false, [], some cls.depth⟩

end OpenClass

def classNames : List String :=
  ["alnum", "alpha", "ascii", "blank", "cntrl", "digit", "graph", "lower", "print", "punct", "space", "upper",
    "word", "xdigit"]

/-- Reads a named class behind its first bracket: whether it is negated, and the rest. -/
def readNamed? : List Char → Option (Bool × List Char)
  | ':' :: cs =>
    let (negated, cs) := match cs with
      | '^' :: cs => (true, cs)
      | cs => (false, cs)
    match cs.dropWhile (· != ':') with
    | ':' :: ']' :: rest =>
      if classNames.contains (String.ofList (cs.takeWhile (· != ':'))) then some (negated, rest) else none
    | _ => none
  | _ => none

/-- Whether a class may be negated, which in bytes would take it beyond ASCII. -/
def allowsNegation (modes : Modes) (negated : Bool) : Bool := modes.unicode || !negated

def readClassAtom? (modes : Modes) : List Char → Option (Atom × List Char)
  | [] => none
  | '\\' :: cs => readEscape? modes cs
  | c :: cs => some (.literal c, cs)

def isRange (first last : Atom) : Bool :=
  match first.char?, last.char? with
  | some a, some b => a ≤ b
  | _, _ => false

/-- Reads an item or a range of a class; a hyphen before a hyphen or the closing bracket makes no range. -/
def skipClassItem? (modes : Modes) (cs : List Char) : Option (List Char) :=
  (readClassAtom? modes cs).bind fun (first, after) =>
    if !first.fitsClass modes then none
    else match modes.skip after with
      | '-' :: rest =>
        match modes.skip rest with
        | ']' :: _ | '-' :: _ => some ('-' :: rest)
        | behind => (readClassAtom? modes behind).bind fun (last, rest) =>
          if last.fitsClass modes && isRange first last then some rest else none
      | rest => some rest

/-- Reads the start of a class behind its bracket: what follows the mark of negation, if it may stand there. -/
def skipNegation? (modes : Modes) (cs : List Char) : Option (List Char) :=
  match modes.skip cs with
  | '^' :: rest => if allowsNegation modes true then some rest else none
  | rest => some rest

/-- Reads the rest of a class, inside those around it, and gives its depth. -/
def readClassFrom? (modes : Modes) (cls : OpenClass) (outer : List OpenClass) (cs : List Char) :
    Option (Nat × List Char) :=
  let literalFits := !modes.foldsCharacters
  let go (cls : OpenClass) (outer : List OpenClass) (rest : List Char) :=
    if rest.length < cs.length then readClassFrom? modes cls outer rest else none
  match modes.skip cs with
  | [] => none
  | c :: rest =>
    if c = '-' ∧ cls.fresh then if literalFits then go cls.addHyphen outer rest else none
    else if c = ']' ∧ cls.fresh ∧ cls.items.isEmpty then
      if literalFits then go (cls.add 0) outer rest else none
    else if c = '[' then
      match readNamed? rest with
      | some (negated, rest) =>
        if literalFits && allowsNegation modes negated then go (cls.add 0) outer rest else none
      | none => (skipNegation? modes rest).bind (go .start (cls :: outer))
    else if c = ']' then
      match outer with
      | [] => some (cls.depth + 1, rest)
      | around :: outer => go (around.add (cls.depth + 1)) outer rest
    else if (c = '&' ∨ c = '-' ∨ c = '~') ∧ rest.head? = some c then go cls.next outer rest.tail
    else (skipClassItem? modes (c :: rest)).bind (go (cls.add 0) outer)
termination_by cs.length

/-- Reads a class behind its opening bracket and gives its depth. -/
def readClass? (modes : Modes) (cs : List Char) : Option (Nat × List Char) :=
  (skipNegation? modes cs).bind (readClassFrom? modes .start [])

end Stencil.Log.Pattern
