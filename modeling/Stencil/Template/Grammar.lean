import Stencil.Text.Class

/-! The pieces of an expression, as texts cut off its front.

    expression := (constant | variable) filter*
    filter     := blank* '|' blank* name (':' (constant | variable))?
    constant   := text in quotes, closed by the first unprotected quote mark
    variable   := word characters and points | sign digit (digit | point | 'e')* -/

set_option autoImplicit false

namespace Stencil.Template

open Text (isBlank isDigit isWord)

/-- The text up to and with the first quote mark that no backslash protects, and the text after it. -/
def closeQuote (quote : Char) : (escaped : Bool) → List Char → Option (List Char × List Char)
  | _, [] => none
  | escaped, c :: cs =>
    if !escaped && c == quote then some ([c], cs)
    else (closeQuote quote (!escaped && c == '\\') cs).map fun (inside, after) => (c :: inside, after)

def takeConstant : List Char → Option (List Char × List Char)
  | [] => none
  | c :: cs =>
    if c = '"' ∨ c = '\'' then (closeQuote c false cs).map fun (inside, after) => (c :: inside, after)
    else none

/-- A character of a name or of a point between names. -/
def isPathChar (c : Char) : Bool := isWord c || c == '.'

def isNumberChar (c : Char) : Bool := isDigit c || c == '.' || c == 'e'

def takeVariable (cs : List Char) : Option (List Char × List Char) :=
  match cs.takeWhile isPathChar with
  | c :: name => some (c :: name, cs.dropWhile isPathChar)
  | [] =>
    match cs with
    | sign :: digit :: rest =>
      if (sign = '-' ∨ sign = '+') ∧ isDigit digit then
        some (sign :: digit :: rest.takeWhile isNumberChar, rest.dropWhile isNumberChar)
      else none
    | _ => none

def takeOperand (cs : List Char) : Option (List Char × List Char) :=
  takeConstant cs <|> takeVariable cs

/-- The text of one filter: what stands before its name, the name, and the argument behind a colon. -/
structure FilterText where
  lead : List Char
  name : List Char
  argument : Option (List Char)
  deriving DecidableEq, Repr

def argumentText : Option (List Char) → List Char
  | some argument => ':' :: argument
  | none => []

def FilterText.text (f : FilterText) : List Char := f.lead ++ f.name ++ argumentText f.argument

/-- The argument at the start of the text after a filter's name, and the text after it. A colon without an
operand behind it is left over. -/
def takeArgument : List Char → Option (List Char) × List Char
  | ':' :: cs =>
    match takeOperand cs with
    | some (argument, after) => (some argument, after)
    | none => (none, ':' :: cs)
  | cs => (none, cs)

def takeFilter (cs : List Char) : Option (FilterText × List Char) :=
  match cs.dropWhile isBlank with
  | '|' :: tail =>
    let named := tail.dropWhile isBlank
    match named.takeWhile isWord with
    | [] => none
    | c :: name =>
      let (argument, after) := takeArgument (named.dropWhile isWord)
      some (⟨cs.takeWhile isBlank ++ '|' :: tail.takeWhile isBlank, c :: name, argument⟩, after)
  | _ => none

theorem closeQuote_append {quote : Char} {escaped : Bool} {cs inside after : List Char}
    (h : closeQuote quote escaped cs = some (inside, after)) : cs = inside ++ after := by
  induction cs generalizing escaped inside with
  | nil => simp [closeQuote] at h
  | cons c cs ih =>
    rw [closeQuote] at h
    split at h
    next => cases h; rfl
    next =>
      obtain ⟨⟨first, last⟩, found, eq⟩ := Option.map_eq_some_iff.1 h
      cases eq
      rw [ih found]
      rfl

theorem takeConstant_append {cs text after : List Char} (h : takeConstant cs = some (text, after)) :
    cs = text ++ after := by
  cases cs with
  | nil => simp [takeConstant] at h
  | cons c cs =>
    rw [takeConstant] at h
    split at h
    next =>
      obtain ⟨⟨first, last⟩, found, eq⟩ := Option.map_eq_some_iff.1 h
      cases eq
      rw [closeQuote_append found]
      rfl
    next => simp at h

theorem takeVariable_append {cs text after : List Char} (h : takeVariable cs = some (text, after)) :
    cs = text ++ after := by
  unfold takeVariable at h
  split at h
  next c name run =>
    cases h
    rw [← run, List.takeWhile_append_dropWhile]
  next =>
    split at h
    next sign digit rest =>
      split at h
      next => cases h; simp [List.takeWhile_append_dropWhile]
      next => simp at h
    next => simp at h

/-- An operand is cut off the front and nothing is lost. -/
theorem takeOperand_append {cs text after : List Char} (h : takeOperand cs = some (text, after)) :
    cs = text ++ after := by
  unfold takeOperand at h
  cases constant : takeConstant cs with
  | some pair => rw [constant] at h; cases h; exact takeConstant_append constant
  | none => rw [constant] at h; exact takeVariable_append h

theorem takeArgument_append (cs : List Char) :
    cs = argumentText (takeArgument cs).1 ++ (takeArgument cs).2 := by
  match cs with
  | [] => rfl
  | c :: cs =>
    by_cases colon : c = ':'
    · subst colon
      cases found : takeOperand cs with
      | none => simp [takeArgument, found, argumentText]
      | some pair =>
        obtain ⟨argument, after⟩ := pair
        simpa [takeArgument, found, argumentText] using takeOperand_append found
    · simp [takeArgument, colon, argumentText]

/-- A filter is cut off the front and nothing is lost. -/
theorem takeFilter_append {cs after : List Char} {f : FilterText} (h : takeFilter cs = some (f, after)) :
    cs = f.text ++ after := by
  unfold takeFilter at h
  split at h
  next tail bar =>
    simp only at h
    split at h
    next => simp at h
    next c name run =>
      cases h
      have named : tail.dropWhile isBlank = c :: name ++ (tail.dropWhile isBlank).dropWhile isWord := by
        rw [← run, List.takeWhile_append_dropWhile]
      have rest := takeArgument_append ((tail.dropWhile isBlank).dropWhile isWord)
      calc cs = cs.takeWhile isBlank ++ cs.dropWhile isBlank := by rw [List.takeWhile_append_dropWhile]
        _ = cs.takeWhile isBlank ++ '|' :: tail := by rw [bar]
        _ = cs.takeWhile isBlank ++ '|' :: (tail.takeWhile isBlank ++ tail.dropWhile isBlank) := by
          rw [List.takeWhile_append_dropWhile]
        _ = cs.takeWhile isBlank ++ '|' :: (tail.takeWhile isBlank ++
            (c :: name ++ (tail.dropWhile isBlank).dropWhile isWord)) := by rw [← named]
        _ = _ := by
          conv => lhs; rw [rest]
          simp [FilterText.text, List.append_assoc]
  next => simp at h

theorem takeFilter_length {cs after : List Char} {f : FilterText} (h : takeFilter cs = some (f, after)) :
    after.length < cs.length := by
  have eq := congrArg List.length (takeFilter_append h)
  have named : 0 < f.name.length := by
    unfold takeFilter at h
    split at h
    next =>
      simp only at h
      split at h
      next => simp at h
      next => cases h; simp
    next => simp at h
  simp [FilterText.text] at eq
  omega

end Stencil.Template
