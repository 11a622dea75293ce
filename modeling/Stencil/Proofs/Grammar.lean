import Mathlib.Data.List.TakeWhile
import Stencil.Template.Chain

/-! The grammar of expressions, told without the readers that cut pieces off, and how far each reader gets:
what it cuts off belongs to the grammar, and nothing longer does. -/

set_option autoImplicit false

namespace Stencil.Text

theorem run_length_le {p : Char → Bool} {run : List Char} (inside : ∀ c ∈ run, p c = true) (rest : List Char) :
    run.length ≤ ((run ++ rest).takeWhile p).length := by
  rw [List.takeWhile_append_of_pos inside, List.length_append]
  exact Nat.le_add_right _ _

def blankPoints : List Nat :=
  [9, 10, 11, 12, 13, 0x20, 0x85, 0xA0, 0x1680, 0x2000, 0x2001, 0x2002, 0x2003, 0x2004, 0x2005, 0x2006, 0x2007,
    0x2008, 0x2009, 0x200A, 0x2028, 0x2029, 0x202F, 0x205F, 0x3000]

theorem mem_blankPoints {c : Char} (blank : isBlank c = true) : c.toNat ∈ blankPoints := by
  simp only [isBlank, Bool.or_eq_true, Bool.and_eq_true, decide_eq_true_eq, beq_iff_eq] at blank
  simp only [blankPoints, List.mem_cons, List.not_mem_nil, or_false]
  omega

theorem isWord_of_isBlank {c : Char} (blank : isBlank c = true) : isWord c = false := by
  have all : ∀ n ∈ blankPoints, isWord (Char.ofNat n) = false := by decide +kernel
  have word := all c.toNat (mem_blankPoints blank)
  rwa [Char.ofNat_toNat] at word

theorem isWord_of_isDigit {c : Char} (digit : isDigit c = true) : isWord c = true := by
  simp [isWord, isAlphanumeric_of_isDigit digit]

end Stencil.Text

namespace Stencil.Template

open Text (isBlank isDigit isWord)

/-- Text between quote marks: no bare quote mark, and a backslash with whatever follows it. -/
inductive QuotedBody (quote : Char) : List Char → Prop
  | nil : QuotedBody quote []
  | plain {c : Char} {cs : List Char} : c ≠ quote → c ≠ '\\' → QuotedBody quote cs → QuotedBody quote (c :: cs)
  | guarded {c : Char} {cs : List Char} : QuotedBody quote cs → QuotedBody quote ('\\' :: c :: cs)

/-- A text in quotes that is closed by its first bare quote mark. -/
def IsConstant (text : List Char) : Prop :=
  ∃ quote body, (quote = '"' ∨ quote = '\'') ∧ QuotedBody quote body ∧ text = quote :: (body ++ [quote])

def IsPathRun (text : List Char) : Prop := text ≠ [] ∧ ∀ c ∈ text, isWord c = true ∨ c = '.'

/-- A digit behind at most one of `-`, `+` and a point, followed by digits, points and exponent marks. -/
def IsNumberRun (text : List Char) : Prop :=
  ∃ lead digit tail, (lead = [] ∨ lead = ['-'] ∨ lead = ['+'] ∨ lead = ['.']) ∧ isDigit digit = true ∧
    (∀ c ∈ tail, isDigit c = true ∨ c = '.' ∨ c = 'e') ∧ text = lead ++ digit :: tail

def IsVariable (text : List Char) : Prop := IsPathRun text ∨ IsNumberRun text

def IsOperand (text : List Char) : Prop := IsConstant text ∨ IsVariable text

/-- A bar among blanks, a name, and behind a colon at most one argument. -/
structure FilterText.WellFormed (f : FilterText) : Prop where
  lead : ∃ before after, (∀ c ∈ before, isBlank c = true) ∧ (∀ c ∈ after, isBlank c = true) ∧
    f.lead = before ++ '|' :: after
  name_ne_nil : f.name ≠ []
  name : ∀ c ∈ f.name, isWord c = true
  argument : ∀ text, f.argument = some text → IsOperand text

/-- An expression is an operand and filters behind it. -/
structure Splits (text base : List Char) (filters : List FilterText) : Prop where
  text_eq : text = base ++ filters.flatMap FilterText.text
  base : IsOperand base
  filters : ∀ f ∈ filters, f.WellFormed

/-- What follows cannot belong to the piece before it: a blank, a bar or nothing. -/
def Stops (rest : List Char) : Prop := ∀ c, rest.head? = some c → isBlank c = true ∨ c = '|'

theorem Stops.not_isWord {rest : List Char} (stops : Stops rest) {c : Char} (head : rest.head? = some c) :
    isWord c = false := by
  rcases stops c head with blank | rfl
  · exact Text.isWord_of_isBlank blank
  · decide +kernel

theorem Stops.ne {rest : List Char} (stops : Stops rest) {c d : Char} (head : rest.head? = some c)
    (plain : isBlank d = false) (other : d ≠ '|') : c ≠ d := by
  rintro rfl
  rcases stops c head with blank | bar
  · rw [blank] at plain
    cases plain
  · exact other bar

theorem Stops.not_isPathChar {rest : List Char} (stops : Stops rest) {c : Char} (head : rest.head? = some c) :
    isPathChar c = false := by
  rw [isPathChar, stops.not_isWord head, Bool.false_or, beq_eq_false_iff_ne]
  exact stops.ne head (by decide) (by decide)

theorem isPathChar_of_isNumberChar {c : Char} (number : isNumberChar c = true) : isPathChar c = true := by
  simp only [isNumberChar, Bool.or_eq_true, beq_iff_eq] at number
  simp only [isPathChar, Bool.or_eq_true, beq_iff_eq]
  rcases number with (digit | point) | mark
  · exact Or.inl (Text.isWord_of_isDigit digit)
  · exact Or.inr point
  · rw [mark]
    exact Or.inl (by decide +kernel)

theorem Stops.not_isNumberChar {rest : List Char} (stops : Stops rest) {c : Char} (head : rest.head? = some c) :
    isNumberChar c = false := by
  rw [Bool.eq_false_iff]
  intro number
  exact Bool.false_ne_true ((stops.not_isPathChar head).symm.trans (isPathChar_of_isNumberChar number))

section
variable {quote : Char} {cs text rest inside after : List Char}

theorem closeQuote_sound {escaped : Bool} (cut : closeQuote quote escaped cs = some (inside, after)) :
    if escaped then ∃ c body, QuotedBody quote body ∧ inside = c :: (body ++ [quote])
    else ∃ body, QuotedBody quote body ∧ inside = body ++ [quote] := by
  induction cs generalizing escaped inside with
  | nil => simp [closeQuote] at cut
  | cons c cs ih =>
    rw [closeQuote] at cut
    split at cut
    next closes =>
      simp only [Bool.and_eq_true, Bool.not_eq_true', beq_iff_eq] at closes
      obtain ⟨rfl, rfl⟩ := closes
      cases cut
      exact ⟨[], .nil, rfl⟩
    next open_ =>
      obtain ⟨⟨body, last⟩, found, eq⟩ := Option.map_eq_some_iff.1 cut
      cases eq
      have found := ih found
      -- A protected character counts as text whatever it is; after it the scan is as at the start.
      cases escaped with
      | true =>
        obtain ⟨body, quoted, rfl⟩ := found
        exact ⟨c, body, quoted, rfl⟩
      | false =>
        simp only [Bool.not_false, Bool.true_and, beq_iff_eq] at open_ found
        by_cases guard : c = '\\'
        · rw [if_pos guard] at found
          obtain ⟨d, body, quoted, rfl⟩ := found
          exact ⟨c :: d :: body, guard ▸ .guarded quoted, rfl⟩
        · rw [if_neg guard] at found
          obtain ⟨body, quoted, rfl⟩ := found
          exact ⟨c :: body, .plain open_ guard quoted, rfl⟩

theorem closeQuote_complete {body : List Char} (quoted : QuotedBody quote body) (plain : quote ≠ '\\')
    (after : List Char) : closeQuote quote false (body ++ quote :: after) = some (body ++ [quote], after) := by
  induction quoted with
  | nil => simp [closeQuote]
  | plain other guard _ ih => simp [closeQuote, other, beq_eq_false_iff_ne.mpr guard, ih]
  | guarded _ ih => simp [closeQuote, plain.symm, ih]

theorem takeConstant_sound (cut : takeConstant cs = some (text, after)) : IsConstant text := by
  cases cs with
  | nil => cases cut
  | cons c cs =>
    rw [takeConstant] at cut
    split at cut
    next mark =>
      obtain ⟨⟨inside, last⟩, found, eq⟩ := Option.map_eq_some_iff.1 cut
      cases eq
      obtain ⟨body, quoted, rfl⟩ := closeQuote_sound found
      exact ⟨c, body, mark, quoted, rfl⟩
    next => cases cut

theorem takeConstant_complete (constant : IsConstant text) (rest : List Char) :
    takeConstant (text ++ rest) = some (text, rest) := by
  obtain ⟨quote, body, mark, quoted, rfl⟩ := constant
  have plain : quote ≠ '\\' := by rcases mark with rfl | rfl <;> decide
  have closed := closeQuote_complete quoted plain rest
  simp [takeConstant, mark, closed]

theorem takeConstant_of_path {c : Char} (path : isPathChar c = true) : takeConstant (c :: cs) = none := by
  have plain : ¬(c = '"' ∨ c = '\'') := by
    rintro (rfl | rfl) <;> exact absurd path (by decide +kernel)
  rw [takeConstant, if_neg plain]

theorem isPathChar_iff {c : Char} : isPathChar c = true ↔ isWord c = true ∨ c = '.' := by
  rw [isPathChar, Bool.or_eq_true, beq_iff_eq]

theorem isNumberChar_iff {c : Char} : isNumberChar c = true ↔ isDigit c = true ∨ c = '.' ∨ c = 'e' := by
  rw [isNumberChar, Bool.or_eq_true, Bool.or_eq_true, beq_iff_eq, beq_iff_eq, or_assoc]

/-- A number without a sign is a path run as well, so only the sign tells the two kinds of variables apart. -/
theorem IsVariable.cases (variable_ : IsVariable text) :
    (∃ c tail, text = c :: tail ∧ ∀ d ∈ text, isPathChar d = true) ∨
      ∃ sign digit tail, (sign = '-' ∨ sign = '+') ∧ isDigit digit = true ∧
        (∀ c ∈ tail, isNumberChar c = true) ∧ text = sign :: digit :: tail := by
  rcases variable_ with ⟨some, run⟩ | ⟨lead, digit, tail, sign, isDigit, numbers, rfl⟩
  · obtain ⟨c, tail, rfl⟩ := List.exists_cons_of_ne_nil some
    exact Or.inl ⟨c, tail, rfl, fun d member => isPathChar_iff.mpr (run d member)⟩
  · have numbers : ∀ c ∈ tail, isNumberChar c = true := fun c member => isNumberChar_iff.mpr (numbers c member)
    have digits : ∀ d ∈ digit :: tail, isPathChar d = true := by
      intro d member
      rcases List.mem_cons.mp member with rfl | member
      · exact isPathChar_iff.mpr (Or.inl (Text.isWord_of_isDigit isDigit))
      · exact isPathChar_of_isNumberChar (numbers d member)
    rcases sign with rfl | rfl | rfl | rfl
    · exact Or.inl ⟨digit, tail, rfl, digits⟩
    · exact Or.inr ⟨'-', digit, tail, Or.inl rfl, isDigit, numbers, rfl⟩
    · exact Or.inr ⟨'+', digit, tail, Or.inr rfl, isDigit, numbers, rfl⟩
    · refine Or.inl ⟨'.', digit :: tail, rfl, fun d member => ?_⟩
      rcases List.mem_cons.mp member with rfl | member
      · decide +kernel
      · exact digits d member

theorem isPathChar_of_variable (variable_ : IsVariable text) :
    ∀ c ∈ text, isPathChar c = true ∨ c = '-' ∨ c = '+' := by
  rcases variable_.cases with ⟨_, _, _, path⟩ | ⟨sign, digit, tail, signed, isDigit, numbers, rfl⟩
  · exact fun c member => Or.inl (path c member)
  · refine List.forall_mem_cons.mpr ⟨Or.inr signed, List.forall_mem_cons.mpr ⟨?_, fun c member => ?_⟩⟩
    · exact Or.inl (isPathChar_iff.mpr (Or.inl (Text.isWord_of_isDigit isDigit)))
    · exact Or.inl (isPathChar_of_isNumberChar (numbers c member))

theorem IsVariable.ne_nil (variable_ : IsVariable text) : text ≠ [] := by
  rcases variable_.cases with ⟨c, tail, rfl, _⟩ | ⟨sign, digit, tail, -, -, -, rfl⟩
  · exact List.cons_ne_nil c tail
  · exact List.cons_ne_nil sign (digit :: tail)

theorem IsVariable.not_mem_of_isBlank (variable_ : IsVariable text) {c : Char}
    (blank : isBlank c = true) : c ∉ text := by
  intro member
  rcases isPathChar_of_variable variable_ c member with path | rfl | rfl
  · rcases isPathChar_iff.mp path with word | rfl
    · rw [Text.isWord_of_isBlank blank] at word
      cases word
    · exact absurd blank (by decide)
  · exact absurd blank (by decide)
  · exact absurd blank (by decide)

theorem takeVariable_of_path {c : Char} (path : isPathChar c = true) :
    takeVariable (c :: cs) = some ((c :: cs).takeWhile isPathChar, (c :: cs).dropWhile isPathChar) := by
  unfold takeVariable
  simp only [List.takeWhile_cons_of_pos path]

theorem takeVariable_of_sign {sign digit : Char} (signed : sign = '-' ∨ sign = '+')
    (isDigit : Text.isDigit digit = true) : takeVariable (sign :: digit :: cs) =
      some (sign :: digit :: cs.takeWhile isNumberChar, cs.dropWhile isNumberChar) := by
  have plain : isPathChar sign = false := by rcases signed with rfl | rfl <;> decide +kernel
  rw [takeVariable, List.takeWhile_cons_of_neg (by simp [plain])]
  simp [signed, isDigit]

theorem takeVariable_sound (cut : takeVariable cs = some (text, after)) : IsVariable text := by
  unfold takeVariable at cut
  split at cut
  next c name run =>
    cases cut
    refine Or.inl ⟨List.cons_ne_nil c name, fun d member => ?_⟩
    rw [← run] at member
    exact isPathChar_iff.mp (List.mem_takeWhile_imp member)
  next =>
    split at cut
    next sign digit tail _ =>
      split at cut
      next signed =>
        cases cut
        refine Or.inr ⟨[sign], digit, tail.takeWhile isNumberChar, ?_, signed.2, fun c member => ?_, rfl⟩
        · rcases signed.1 with rfl | rfl <;> simp
        · exact isNumberChar_iff.mp (List.mem_takeWhile_imp member)
      next => cases cut
    next => cases cut

/-- An operand at the front of a text is cut off whole, or a longer one is. -/
theorem takeOperand_reaches (operand : IsOperand text) (rest : List Char) :
    ∃ longer left, takeOperand (text ++ rest) = some (longer, left) ∧ text.length ≤ longer.length := by
  rcases operand with constant | variable_
  · exact ⟨text, rest, by simp [takeOperand, takeConstant_complete constant rest], Nat.le_refl _⟩
  · rcases variable_.cases with ⟨c, tail, rfl, run⟩ | ⟨sign, digit, tail, signed, isDigit, numbers, rfl⟩
    · have path := run c (List.mem_cons_self ..)
      refine ⟨_, (c :: tail ++ rest).dropWhile isPathChar, ?_, Text.run_length_le run rest⟩
      rw [takeOperand, List.cons_append, takeConstant_of_path path, takeVariable_of_path path]
      rfl
    · have plain : takeConstant (sign :: digit :: (tail ++ rest)) = none := by
        rcases signed with rfl | rfl <;> rfl
      refine ⟨sign :: digit :: (tail ++ rest).takeWhile isNumberChar, (tail ++ rest).dropWhile isNumberChar, ?_, ?_⟩
      · rw [takeOperand, List.cons_append, List.cons_append, plain, takeVariable_of_sign signed isDigit]
        rfl
      · exact Nat.add_le_add_right (Nat.add_le_add_right (Text.run_length_le numbers rest) 1) 1

/-- An operand is cut off whole where something follows that cannot belong to it. -/
theorem takeOperand_complete (operand : IsOperand text) (stops : Stops rest) :
    takeOperand (text ++ rest) = some (text, rest) := by
  rcases operand with constant | variable_
  · simp [takeOperand, takeConstant_complete constant rest]
  · rcases variable_.cases with ⟨c, tail, rfl, run⟩ | ⟨sign, digit, tail, signed, isDigit, numbers, rfl⟩
    · have path := run c (List.mem_cons_self ..)
      obtain ⟨taken, left⟩ := Text.run_stop run fun _ => stops.not_isPathChar
      rw [takeOperand, List.cons_append, takeConstant_of_path path, takeVariable_of_path path]
      rw [← List.cons_append, taken, left]
      rfl
    · have plain : takeConstant (sign :: digit :: (tail ++ rest)) = none := by
        rcases signed with rfl | rfl <;> rfl
      obtain ⟨taken, left⟩ := Text.run_stop numbers fun _ => stops.not_isNumberChar
      rw [takeOperand, List.cons_append, List.cons_append, plain, takeVariable_of_sign signed isDigit, taken, left]
      rfl

theorem takeOperand_sound (cut : takeOperand cs = some (text, after)) : IsOperand text := by
  unfold takeOperand at cut
  cases constant : takeConstant cs with
  | some pair => rw [constant] at cut; cases cut; exact Or.inl (takeConstant_sound constant)
  | none => rw [constant] at cut; exact Or.inr (takeVariable_sound cut)

end

section
variable {cs rest after : List Char} {f : FilterText}

theorem takeFilter_lead {before blanks named : List Char} (leads : ∀ c ∈ before, isBlank c = true)
    (follows : ∀ c ∈ blanks, isBlank c = true) (word : ∀ c, named.head? = some c → isBlank c = false)
    (some_ : named.takeWhile isWord ≠ []) :
    takeFilter (before ++ '|' :: (blanks ++ named)) =
      some (⟨before ++ '|' :: blanks, named.takeWhile isWord, (takeArgument (named.dropWhile isWord)).1⟩,
        (takeArgument (named.dropWhile isWord)).2) := by
  have bar : ∀ c, ('|' :: (blanks ++ named)).head? = some c → isBlank c = false := by
    rintro c head
    cases head
    decide
  obtain ⟨leadTaken, leadLeft⟩ := Text.run_stop leads bar
  obtain ⟨blanksTaken, blanksLeft⟩ := Text.run_stop follows word
  unfold takeFilter
  simp only [leadTaken, leadLeft, blanksTaken, blanksLeft]
  split
  next none => exact absurd none some_
  next c name run => rw [run]

theorem takeArgument_complete (f : FilterText) (operands : ∀ text, f.argument = some text → IsOperand text)
    (stops : Stops rest) : takeArgument (argumentText f.argument ++ rest) = (f.argument, rest) := by
  cases argument : f.argument with
  | some text =>
    rw [argumentText, List.cons_append, takeArgument, takeOperand_complete (operands text argument) stops]
  | none =>
    rw [argumentText, List.nil_append, takeArgument]
    rintro tail rfl
    exact stops.ne rfl (by decide) (by decide) rfl

theorem FilterText.name_stops (argument : Option (List Char)) (stops : argument = none → Stops rest) :
    ∀ c, (argumentText argument ++ rest).head? = some c → isWord c = false := by
  intro c head
  cases argument with
  | some text =>
    cases head
    decide +kernel
  | none => exact (stops rfl).not_isWord head

theorem FilterText.WellFormed.head_not_blank (formed : f.WellFormed) (rest : List Char) :
    ∀ c, (f.name ++ rest).head? = some c → isBlank c = false := by
  intro c head
  obtain ⟨d, tail, name⟩ := List.exists_cons_of_ne_nil formed.name_ne_nil
  have word := formed.name d (name ▸ List.mem_cons_self ..)
  rw [name] at head
  cases head
  rw [Bool.eq_false_iff]
  intro blank
  rw [Text.isWord_of_isBlank blank] at word
  cases word

theorem FilterText.text_append {before blanks : List Char} (lead : f.lead = before ++ '|' :: blanks)
    (rest : List Char) : f.text ++ rest =
      before ++ '|' :: (blanks ++ (f.name ++ (argumentText f.argument ++ rest))) := by
  rw [text, lead]
  simp only [List.append_assoc, List.cons_append]

theorem takeFilter_complete (formed : f.WellFormed) (stops : Stops rest) :
    takeFilter (f.text ++ rest) = some (f, rest) := by
  obtain ⟨before, blanks, leads, follows, lead⟩ := formed.lead
  obtain ⟨taken, left⟩ := Text.run_stop formed.name (FilterText.name_stops f.argument fun _ => stops)
  have cut := takeFilter_lead leads follows (formed.head_not_blank (argumentText f.argument ++ rest))
    (by rw [taken]; exact formed.name_ne_nil)
  rw [taken, left, takeArgument_complete f formed.argument stops, ← lead] at cut
  rw [FilterText.text_append lead, cut]

theorem takeFilter_reaches (formed : f.WellFormed) (rest : List Char) :
    ∃ longer left, takeFilter (f.text ++ rest) = some (longer, left) ∧ f.text.length ≤ longer.text.length := by
  obtain ⟨before, blanks, leads, follows, lead⟩ := formed.lead
  have run : f.name.length ≤ ((f.name ++ (argumentText f.argument ++ rest)).takeWhile isWord).length :=
    Text.run_length_le formed.name _
  have some_ : (f.name ++ (argumentText f.argument ++ rest)).takeWhile isWord ≠ [] := by
    have pos := List.length_pos_iff.mpr formed.name_ne_nil
    exact List.ne_nil_of_length_pos (by omega)
  rw [FilterText.text_append lead,
    takeFilter_lead leads follows (formed.head_not_blank (argumentText f.argument ++ rest)) some_]
  refine ⟨_, _, rfl, ?_⟩
  simp only [FilterText.text, List.length_append, ← lead]
  cases argument : f.argument with
  | none =>
    -- Without an argument the name itself may run on into the rest.
    have empty : (argumentText none).length = 0 := rfl
    rw [argument] at run
    omega
  | some text =>
    -- The colon ends the name, so the name is the same and only the argument may grow.
    obtain ⟨-, left⟩ := Text.run_stop formed.name
      (@FilterText.name_stops rest (some text) fun none => absurd none (Option.some_ne_none text))
    obtain ⟨longer, after, cut, le⟩ := takeOperand_reaches (formed.argument text argument) rest
    have width (argument : List Char) : (argumentText (some argument)).length = argument.length + 1 := rfl
    have found : takeArgument (argumentText (some text) ++ rest) = (some longer, after) := by
      rw [argumentText, List.cons_append, takeArgument, cut]
    rw [argument] at run
    rw [left, found, width, width]
    omega

theorem takeArgument_sound {text : List Char} (cut : (takeArgument cs).1 = some text) : IsOperand text := by
  unfold takeArgument at cut
  split at cut
  next =>
    split at cut
    next found =>
      cases cut
      exact takeOperand_sound found
    next => cases cut
  next => cases cut

theorem takeFilter_sound (cut : takeFilter cs = some (f, after)) : f.WellFormed := by
  unfold takeFilter at cut
  split at cut
  next tail bar =>
    simp only at cut
    split at cut
    next => cases cut
    next c name run =>
      cases cut
      refine ⟨⟨cs.takeWhile isBlank, tail.takeWhile isBlank, fun _ => List.mem_takeWhile_imp,
        fun _ => List.mem_takeWhile_imp, rfl⟩, List.cons_ne_nil c name, fun d member => ?_, fun _ => takeArgument_sound⟩
      rw [← run] at member
      exact List.mem_takeWhile_imp member
  next => cases cut

end

/-- The filters that are cut off a text one after the other, and what is left. -/
def cutFilters (cs : List Char) : List FilterText × List Char :=
  match _cut : takeFilter cs with
  | none => ([], cs)
  | some (f, after) => (f :: (cutFilters after).1, (cutFilters after).2)
termination_by cs.length
decreasing_by all_goals exact takeFilter_length _cut

section
variable {cs rest after text base : List Char} {f : FilterText} {filters : List FilterText}

theorem cutFilters_of_none (cut : takeFilter cs = none) : cutFilters cs = ([], cs) := by
  rw [cutFilters]
  split
  next => rfl
  next found => rw [cut] at found; cases found

theorem cutFilters_of_some (cut : takeFilter cs = some (f, after)) :
    cutFilters cs = (f :: (cutFilters after).1, (cutFilters after).2) := by
  rw [cutFilters]
  split
  next found => rw [cut] at found; cases found
  next found => rw [cut] at found; cases found; rfl

theorem cutFilters_sound (cs : List Char) :
    cs = (cutFilters cs).1.flatMap FilterText.text ++ (cutFilters cs).2 ∧
      (∀ f ∈ (cutFilters cs).1, f.WellFormed) ∧ takeFilter (cutFilters cs).2 = none := by
  fun_induction cutFilters cs with
  | case1 cs cut => exact ⟨rfl, nofun, cut⟩
  | case2 cs f after cut ih =>
    obtain ⟨split, formed, left⟩ := ih
    refine ⟨?_, fun g member => ?_, left⟩
    · rw [List.flatMap_cons, List.append_assoc, ← split]
      exact takeFilter_append cut
    · rcases List.mem_cons.mp member with rfl | member
      · exact takeFilter_sound cut
      · exact formed g member

/-- Filters begin with a blank or a bar, so they stop what stands before them. -/
theorem stops_of_filters (formed : ∀ f ∈ filters, f.WellFormed) (stops : filters = [] → Stops rest) :
    Stops (filters.flatMap FilterText.text ++ rest) := by
  cases filters with
  | nil => exact stops rfl
  | cons f filters =>
    intro c head
    obtain ⟨before, blanks, leads, -, lead⟩ := (formed f (List.mem_cons_self ..)).lead
    rw [List.flatMap_cons, FilterText.text, lead] at head
    cases before with
    | nil => cases head; exact Or.inr rfl
    | cons d before => cases head; exact Or.inl (leads c (List.mem_cons_self ..))

theorem stops_nil : Stops [] := fun _ head => nomatch head

theorem cutFilters_complete (formed : ∀ f ∈ filters, f.WellFormed) :
    cutFilters (filters.flatMap FilterText.text) = (filters, []) := by
  induction filters with
  | nil => exact cutFilters_of_none rfl
  | cons f filters ih =>
    have later : ∀ f ∈ filters, f.WellFormed := fun f member => formed f (List.mem_cons_of_mem _ member)
    have stops : Stops (filters.flatMap FilterText.text) := by
      simpa using stops_of_filters later fun _ => stops_nil
    rw [List.flatMap_cons,
      cutFilters_of_some (takeFilter_complete (formed f (List.mem_cons_self ..)) stops), ih later]

/-- No filters at the front of a text reach farther than those that are cut off. -/
theorem cutFilters_reaches (formed : ∀ f ∈ filters, f.WellFormed) (rest : List Char) :
    (filters.flatMap FilterText.text).length ≤
      ((cutFilters (filters.flatMap FilterText.text ++ rest)).1.flatMap FilterText.text).length := by
  induction filters with
  | nil => exact Nat.zero_le _
  | cons f filters ih =>
    have first := formed f (List.mem_cons_self ..)
    have later : ∀ f ∈ filters, f.WellFormed := fun f member => formed f (List.mem_cons_of_mem _ member)
    rw [List.flatMap_cons, List.append_assoc]
    -- Only the last filter may grow into the rest: each of the others is stopped by the next one.
    cases filters with
    | nil =>
      obtain ⟨longer, left, cut, le⟩ := takeFilter_reaches first rest
      rw [List.flatMap_nil, List.nil_append, cutFilters_of_some cut, List.flatMap_cons]
      simp only [List.append_nil, List.length_append]
      omega
    | cons g filters =>
      have stops : Stops ((g :: filters).flatMap FilterText.text ++ rest) := stops_of_filters later nofun
      have cut := takeFilter_complete first stops
      have width (fs : List FilterText) : ((f :: fs).flatMap FilterText.text).length =
          f.text.length + (fs.flatMap FilterText.text).length := by
        rw [List.flatMap_cons, List.length_append]
      rw [cutFilters_of_some cut, width, List.length_append]
      exact Nat.add_le_add_left (ih later) _

theorem Splits.takeOperand (splits : Splits text base filters) :
    takeOperand text = some (base, filters.flatMap FilterText.text) := by
  have stops := stops_of_filters splits.filters fun _ => stops_nil
  rw [List.append_nil] at stops
  rw [splits.text_eq]
  exact takeOperand_complete splits.base stops

/-- A text is an expression just if its operand and filters are cut off and nothing is left. -/
theorem splits_iff : Splits text base filters ↔
    ∃ after, takeOperand text = some (base, after) ∧ cutFilters after = (filters, []) := by
  constructor
  · intro splits
    exact ⟨_, splits.takeOperand, cutFilters_complete splits.filters⟩
  · rintro ⟨after, cut, run⟩
    obtain ⟨split, formed, -⟩ := cutFilters_sound after
    rw [run] at split formed
    refine ⟨?_, takeOperand_sound cut, formed⟩
    rw [takeOperand_append cut]
    simpa using split

theorem Splits.unique {base' : List Char} {filters' : List FilterText} (splits : Splits text base filters)
    (also : Splits text base' filters') : base = base' ∧ filters = filters' := by
  obtain ⟨after, cut, run⟩ := splits_iff.mp splits
  obtain ⟨after', cut', run'⟩ := splits_iff.mp also
  rw [cut] at cut'
  cases cut'
  rw [run] at run'
  cases run'
  exact ⟨rfl, rfl⟩

end

end Stencil.Template
