import Stencil.Fixture.Filters
import Stencil.Proofs.Grammar
import Stencil.Proofs.Outcome

/-! What the reader of expressions accepts: the texts of the grammar whose filters are in scope, take as many
values as they are given, and whose paths name nothing private. -/

set_option autoImplicit false

namespace Stencil.Template

open Text (byteLength)

/-- A text in quotes, or one that reads as a number. -/
def IsLiteral (text : List Char) : Prop :=
  (∃ quote, text.head? = some quote ∧ (quote = '"' ∨ quote = '\'')) ∨ (readNumber? text).isSome

/-- Only a literal may start with an underscore or have one behind a point. -/
def Permitted (text : List Char) : Prop :=
  IsLiteral text ∨ ¬(text.head? = some '_' ∨ ['.', '_'] <:+: text)

/-- The filter is in scope, takes as many values as it is given, and its argument is permitted. -/
def Admits (registry : Registry) (f : FilterText) : Prop :=
  ∃ bound, registry.get? (String.ofList f.name) = some bound ∧
    bound.filter.arity.accepts (1 + f.argument.toList.length) = true ∧
    ∀ text, f.argument = some text → Permitted text

/-- The text is an expression of the grammar, and all its parts are permitted. -/
def Accepted (registry : Registry) (text : List Char) : Prop :=
  ∃ base filters, Splits text base filters ∧ Permitted base ∧ ∀ f ∈ filters, Admits registry f

/-- What is left of a text behind its longest accepted beginning; the whole text if there is none. -/
def LeftOver (registry : Registry) (text rest : List Char) : Prop :=
  (∃ front, text = front ++ rest ∧ Accepted registry front ∧
    ∀ other left, text = other ++ left → Accepted registry other → other.length ≤ front.length) ∨
  (rest = text ∧ ∀ other left, text = other ++ left → ¬Accepted registry other)

/-- An operand that was read from a text at an offset: it covers the text, is a literal just if the text is one, and
has the names of the text as a path. -/
structure Operand.ReadFrom (offset : Nat) (text : List Char) (operand : Operand) : Prop where
  read : ofText text offset = .ok operand
  span : operand.span = ⟨offset, offset + byteLength text⟩
  literal : (∃ value, operand = .literal value operand.span) ↔ IsLiteral text
  path : ∀ p, operand = .path p → p.text = String.ofList text

/-- A filter that was read from a text at a position. -/
structure FilterUse.ReadFrom (registry : Registry) (position : Nat) (f : FilterText) (use : FilterUse) : Prop where
  name : use.name = String.ofList f.name
  bound : registry.get? use.name = some ⟨use.filter, use.library⟩
  accepts : use.filter.arity.accepts (1 + f.argument.toList.length) = true
  argument : Option.Rel (Operand.ReadFrom (position + byteLength f.lead + byteLength f.name + 1)) f.argument use.argument
  span : use.span = ⟨position + byteLength f.lead, position + byteLength f.text⟩

/-- Filters that were read one after the other from texts that stand from a position on. -/
def UsesReadFrom (registry : Registry) : Nat → List FilterText → List FilterUse → Prop
  | _, [], [] => True
  | position, f :: filters, use :: uses =>
    use.ReadFrom registry position f ∧ UsesReadFrom registry (position + byteLength f.text) filters uses
  | _, _, _ => False

/-- An expression that was read from a text of the grammar at an offset. -/
structure Expression.ReadFrom (registry : Registry) (offset : Nat) (text base : List Char)
    (filters : List FilterText) (e : Expression) : Prop where
  splits : Splits text base filters
  operand : e.base.ReadFrom offset base
  uses : UsesReadFrom registry (offset + byteLength base) filters e.filters
  token : e.token = String.ofList text
  span : e.span = ⟨offset, offset + byteLength text⟩

theorem contains_iff {part cs : List Char} : Text.contains part cs = true ↔ part <:+: cs := by
  induction cs with
  | nil => rw [Text.contains, List.isEmpty_iff, List.infix_nil]
  | cons c cs ih => rw [Text.contains, Bool.or_eq_true, List.isPrefixOf_iff_prefix, ih, List.infix_cons_iff]

theorem hasPrivateName_iff {text : List Char} :
    hasPrivateName text = true ↔ text.head? = some '_' ∨ ['.', '_'] <:+: text := by
  rw [hasPrivateName, Bool.or_eq_true, beq_iff_eq, contains_iff]

theorem layOut_names (offset : Nat) (names : List String) : (Path.layOut offset names).map (·.name) = names := by
  induction names generalizing offset with
  | nil => rfl
  | cons name names ih => rw [Path.layOut, List.map_cons, ih]

theorem intercalate_ofList (names : List (List Char)) :
    ".".intercalate (names.map String.ofList) = String.ofList (['.'].intercalate names) := by
  apply String.toList_inj.mp
  simp [String.toList_intercalate, Function.comp_def]

theorem Path.ofText_text (text : List Char) (offset : Nat) : (Path.ofText text offset).text = String.ofList text := by
  rw [Path.text, Path.ofText, layOut_names, intercalate_ofList, Text.intercalate_splitOn]

section
variable {registry : Registry} {text : List Char} {position offset : Nat} {f : FilterText}

theorem isLiteral_of_quote {quote : Char} (quoted : text.head?.filter isQuote = some quote) : IsLiteral text := by
  obtain ⟨head, mark⟩ := Option.filter_eq_some_iff.mp quoted
  simp only [isQuote, Bool.or_eq_true, beq_iff_eq] at mark
  exact Or.inl ⟨quote, head, mark⟩

theorem isLiteral_iff_number (unquoted : text.head?.filter isQuote = none) :
    IsLiteral text ↔ (readNumber? text).isSome := by
  refine or_iff_right ?_
  rintro ⟨quote, head, mark⟩
  rw [head, Option.filter_some, if_pos (by simpa [isQuote] using mark)] at unquoted
  cases unquoted

theorem Operand.ofText_eq_ok_iff : (∃ operand, ofText text offset = .ok operand) ↔ Permitted text := by
  unfold ofText Permitted
  split
  next quoted => exact ⟨fun _ => Or.inl (isLiteral_of_quote quoted), fun _ => ⟨_, rfl⟩⟩
  next unquoted =>
    rw [isLiteral_iff_number unquoted]
    split
    next number => exact ⟨fun _ => Or.inl (by rw [number]; rfl), fun _ => ⟨_, rfl⟩⟩
    next number =>
      rw [← hasPrivateName_iff, number]
      split <;> simp_all

/-- Whatever is read from a text covers it, and keeps it as a literal or by its names. -/
theorem Operand.readFrom_iff_ofText {operand : Operand} : operand.ReadFrom offset text ↔ ofText text offset = .ok operand := by
  refine ⟨ReadFrom.read, fun read => ?_⟩
  have again := read
  unfold ofText at read
  split at read
  next quoted =>
    cases read
    exact ⟨again, rfl, iff_of_true ⟨_, rfl⟩ (isLiteral_of_quote quoted), nofun⟩
  next unquoted =>
    split at read
    next number =>
      cases read
      exact ⟨again, rfl, iff_of_true ⟨_, rfl⟩ ((isLiteral_iff_number unquoted).mpr (by rw [number]; rfl)), nofun⟩
    next number =>
      split at read <;> cases read
      refine ⟨again, rfl, iff_of_false nofun ?_, fun p same => ?_⟩
      · rw [isLiteral_iff_number unquoted, number]
        exact nofun
      · cases same
        exact Path.ofText_text text offset

theorem Operand.readFrom_iff : (∃ operand : Operand, operand.ReadFrom offset text) ↔ Permitted text := by
  simp only [readFrom_iff_ofText, ofText_eq_ok_iff]

theorem Operand.ofText_error {error : ParseError} (failed : ofText text offset = .error error) :
    error = .underscoreName (String.ofList text) ⟨offset, offset + byteLength text⟩ := by
  unfold ofText at failed
  split at failed
  next => cases failed
  next =>
    split at failed
    next => cases failed
    next =>
      split at failed
      next => cases failed; rfl
      next => cases failed

abbrev FilterText.argumentStart (f : FilterText) (position : Nat) : Nat :=
  position + byteLength f.lead + byteLength f.name + 1

theorem FilterText.argument_readFrom_iff {argument : Option Operand} :
    Option.Rel (Operand.ReadFrom (f.argumentStart position)) f.argument argument ↔
      f.argument.mapM (Operand.ofText · (f.argumentStart position)) = .ok argument := by
  have same : Operand.ReadFrom (f.argumentStart position) =
      fun text operand => Operand.ofText text (f.argumentStart position) = .ok operand := by
    ext
    exact Operand.readFrom_iff_ofText
  rw [same, Outcome.mapM_eq_ok]

theorem FilterUse.ofText_of_bound {bound : BoundFilter} {argument : Option Operand}
    (found : registry.get? (String.ofList f.name) = some bound)
    (read : f.argument.mapM (Operand.ofText · (f.argumentStart position)) = .ok argument) :
    ofText registry position f =
      if bound.filter.arity.accepts (1 + f.argument.toList.length) then
        .ok ⟨String.ofList f.name, bound.library, bound.filter, argument,
          ⟨position + byteLength f.lead, position + byteLength f.text⟩⟩
      else .error (.filterArity (String.ofList f.name) bound.filter.arity.least (1 + f.argument.toList.length)
        ⟨position + byteLength f.lead, position + byteLength f.text⟩) := by
  have provided : (if argument.isSome then 2 else 1) = 1 + f.argument.toList.length := by
    have related := Outcome.mapM_eq_ok.mp read
    generalize f.argument = text at related
    cases related <;> rfl
  unfold ofText
  simp only [found, read]
  rw [← provided]
  rfl

theorem FilterUse.ofText_of_argument {bound : BoundFilter} {error : ParseError}
    (found : registry.get? (String.ofList f.name) = some bound)
    (failed : f.argument.mapM (Operand.ofText · (f.argumentStart position)) = .error error) :
    ofText registry position f = .error error := by
  unfold ofText
  simp only [found, failed]
  rfl

theorem FilterUse.ofText_of_unbound (none : registry.get? (String.ofList f.name) = none) :
    ofText registry position f = .error (.unknownFilter (String.ofList f.name)
      ⟨position + byteLength f.lead, position + byteLength f.lead + byteLength f.name⟩) := by
  unfold ofText
  simp only [none]

theorem FilterUse.ofText_eq_ok_iff {use : FilterUse} :
    ofText registry position f = .ok use ↔ use.ReadFrom registry position f := by
  constructor
  · intro done
    cases found : registry.get? (String.ofList f.name) with
    | none => rw [ofText_of_unbound found] at done; cases done
    | some bound =>
      cases read : f.argument.mapM (Operand.ofText · (f.argumentStart position)) with
      | error error => rw [ofText_of_argument found read] at done; cases done
      | ok argument =>
        rw [ofText_of_bound found read] at done
        split at done
        next accepts =>
          cases done
          exact ⟨rfl, found, accepts, FilterText.argument_readFrom_iff.mpr read, rfl⟩
        next => cases done
  · rintro ⟨name, found, accepts, argument, span⟩
    obtain ⟨useName, library, filter, useArgument, useSpan⟩ := use
    simp only at name found accepts argument span
    subst name span
    rw [ofText_of_bound found (FilterText.argument_readFrom_iff.mp argument), if_pos accepts]

theorem FilterUse.readFrom_iff : (∃ use : FilterUse, use.ReadFrom registry position f) ↔ Admits registry f := by
  constructor
  · rintro ⟨use, read⟩
    refine ⟨⟨use.filter, use.library⟩, read.name ▸ read.bound, read.accepts, fun text argument => ?_⟩
    have related := read.argument
    rw [argument] at related
    generalize use.argument = operand at related
    cases related with
    | some done => exact Operand.readFrom_iff.mp ⟨_, done⟩
  · rintro ⟨bound, found, accepts, permitted⟩
    have read : ∃ argument, Option.Rel (Operand.ReadFrom (f.argumentStart position)) f.argument argument := by
      cases argument : f.argument with
      | none => exact ⟨none, .none⟩
      | some text =>
        obtain ⟨operand, done⟩ := Operand.readFrom_iff.mpr (permitted text argument)
        exact ⟨some operand, .some done⟩
    obtain ⟨argument, related⟩ := read
    exact ⟨⟨_, bound.library, bound.filter, argument, _⟩, rfl, found, accepts, related, rfl⟩

theorem FilterUse.ofText_error {error : ParseError} (failed : ofText registry position f = .error error) :
    (error = .unknownFilter (String.ofList f.name)
        ⟨position + byteLength f.lead, position + byteLength f.lead + byteLength f.name⟩) ∨
      (∃ text, f.argument = some text ∧ Operand.ofText text (f.argumentStart position) = .error error) ∨
      ∃ required, error = .filterArity (String.ofList f.name) required (1 + f.argument.toList.length)
        ⟨position + byteLength f.lead, position + byteLength f.text⟩ := by
  -- The name is looked up first, then the argument is read, and last the values are counted.
  cases found : registry.get? (String.ofList f.name) with
  | none =>
    rw [ofText_of_unbound found] at failed
    cases failed
    exact Or.inl rfl
  | some bound =>
    cases read : f.argument.mapM (Operand.ofText · (f.argumentStart position)) with
    | error other =>
      rw [ofText_of_argument found read] at failed
      cases failed
      exact Or.inr (Or.inl (Outcome.mapM_eq_error.mp read))
    | ok argument =>
      rw [ofText_of_bound found read] at failed
      split at failed
      next => cases failed
      next =>
        cases failed
        exact Or.inr (Or.inr ⟨_, rfl⟩)

end

section
variable {registry : Registry}

theorem readFilters_of_none {position : Nat} {cs : List Char} (cut : takeFilter cs = none) :
    readFilters registry position cs = .ok ([], cs) := by
  rw [readFilters]
  split
  next => rfl
  next found => rw [cut] at found; cases found

theorem readFilters_of_some {position : Nat} {cs after : List Char} {f : FilterText}
    (cut : takeFilter cs = some (f, after)) : readFilters registry position cs = (do
      let first ← FilterUse.ofText registry position f
      let (others, rest) ← readFilters registry (position + byteLength f.text) after
      return (first :: others, rest)) := by
  rw [readFilters]
  split
  next found => rw [cut] at found; cases found
  next found => rw [cut] at found; cases found; rfl

/-- Reading filters is cutting them off and reading each where it stands. -/
theorem readFilters_eq_ok_iff {position : Nat} {cs rest : List Char} {uses : List FilterUse} :
    readFilters registry position cs = .ok (uses, rest) ↔
      UsesReadFrom registry position (cutFilters cs).1 uses ∧ rest = (cutFilters cs).2 := by
  fun_induction cutFilters cs generalizing position uses with
  | case1 cs cut =>
    rw [readFilters_of_none cut]
    cases uses with
    | nil => simp [UsesReadFrom, eq_comm]
    | cons use uses => simp [UsesReadFrom]
  | case2 cs f after cut ih =>
    rw [readFilters_of_some cut, Outcome.bind_eq_ok]
    constructor
    · rintro ⟨first, read, done⟩
      obtain ⟨⟨others, left⟩, readOthers, same⟩ := Outcome.bind_eq_ok.mp done
      cases same
      obtain ⟨later, left⟩ := ih.mp readOthers
      exact ⟨⟨FilterUse.ofText_eq_ok_iff.mp read, later⟩, left⟩
    · rintro ⟨read, left⟩
      cases uses with
      | nil => cases read
      | cons first others =>
        refine ⟨first, FilterUse.ofText_eq_ok_iff.mpr read.1, ?_⟩
        rw [ih.mpr ⟨read.2, left⟩]
        rfl

theorem usesReadFrom_iff {position : Nat} {filters : List FilterText} :
    (∃ uses, UsesReadFrom registry position filters uses) ↔ ∀ f ∈ filters, Admits registry f := by
  induction filters generalizing position with
  | nil => exact ⟨fun _ => nofun, fun _ => ⟨[], trivial⟩⟩
  | cons f filters ih =>
    rw [List.forall_mem_cons, ← FilterUse.readFrom_iff, ← ih]
    constructor
    · rintro ⟨_ | ⟨use, uses⟩, read⟩
      · cases read
      · exact ⟨⟨use, read.1⟩, ⟨uses, read.2⟩⟩
    · rintro ⟨⟨use, read⟩, ⟨uses, later⟩⟩
      exact ⟨use :: uses, read, later⟩

/-- A failure of reading filters is one of reading one of them where it stands. -/
theorem readFilters_error {position : Nat} {cs : List Char} {error : ParseError}
    (failed : readFilters registry position cs = .error error) :
    ∃ passed f left, cs = passed ++ (f.text ++ left) ∧ f.WellFormed ∧
      FilterUse.ofText registry (position + byteLength passed) f = .error error := by
  fun_induction cutFilters cs generalizing position with
  | case1 cs cut => rw [readFilters_of_none cut] at failed; cases failed
  | case2 cs f after cut ih =>
    rw [readFilters_of_some cut] at failed
    rcases Outcome.bind_eq_error.mp failed with failed | ⟨first, read, rest⟩
    · exact ⟨[], f, after, takeFilter_append cut, takeFilter_sound cut, failed⟩
    · rcases Outcome.bind_eq_error.mp rest with failed | ⟨others, _, rest⟩
      · obtain ⟨passed, g, left, split, formed, failed⟩ := ih failed
        refine ⟨f.text ++ passed, g, left, ?_, formed, ?_⟩
        · rw [takeFilter_append cut, split, List.append_assoc]
        · rwa [Text.byteLength_append, ← Nat.add_assoc]
      · cases rest

end

section
variable {registry : Registry} {text : List Char} {offset : Nat}

theorem Expression.ofText_eq_ok_iff {e : Expression} :
    ofText registry text offset = .ok e ↔ ∃ base filters, e.ReadFrom registry offset text base filters := by
  constructor
  · intro done
    unfold ofText at done
    split at done
    next => split at done <;> cases done
    next base after cut =>
      obtain ⟨operand, readBase, done⟩ := Outcome.bind_eq_ok.mp done
      obtain ⟨⟨uses, rest⟩, readUses, done⟩ := Outcome.bind_eq_ok.mp done
      obtain ⟨read, left⟩ := readFilters_eq_ok_iff.mp readUses
      cases rest with
      | cons => cases done
      | nil =>
        cases done
        have operand := Operand.readFrom_iff_ofText.mpr readBase
        exact ⟨base, (cutFilters after).1, splits_iff.mpr ⟨after, cut, by rw [left]⟩, operand, read, rfl, rfl⟩
  · rintro ⟨base, filters, splits, ⟨readBase, -⟩, read, token, span⟩
    obtain ⟨after, cut, run⟩ := splits_iff.mp splits
    have readUses : readFilters registry (offset + byteLength base) after = .ok (e.filters, []) := by
      rw [readFilters_eq_ok_iff, run]
      exact ⟨read, rfl⟩
    obtain ⟨operand, uses, eToken, eSpan⟩ := e
    simp only at token span readBase readUses
    subst token span
    unfold ofText
    simp only [cut, readBase, readUses]
    rfl

theorem Expression.readFrom_iff : (∃ e, ofText registry text offset = .ok e) ↔ Accepted registry text := by
  constructor
  · rintro ⟨e, done⟩
    obtain ⟨base, filters, read⟩ := ofText_eq_ok_iff.mp done
    exact ⟨base, filters, read.splits, Operand.readFrom_iff.mp ⟨_, read.operand⟩,
      usesReadFrom_iff.mp ⟨_, read.uses⟩⟩
  · rintro ⟨base, filters, splits, permitted, admitted⟩
    obtain ⟨operand, readBase⟩ := Operand.readFrom_iff.mpr permitted
    obtain ⟨uses, read⟩ := usesReadFrom_iff.mpr admitted
    exact ⟨⟨operand, uses, _, _⟩, ofText_eq_ok_iff.mpr ⟨base, filters, splits, readBase, read, rfl, rfl⟩⟩

/-- The ways in which reading an expression fails. -/
inductive Expression.Fails (registry : Registry) (text : List Char) (offset : Nat) : ParseError → Prop
  | missing : takeOperand text = none → (takeFilter text).isSome →
      Fails registry text offset (.missingVariable (String.ofList text) ⟨offset, offset + byteLength text⟩)
  | nothing : takeOperand text = none → takeFilter text = none →
      Fails registry text offset
        (.invalidRemainder (String.ofList text) (String.ofList text) ⟨offset, offset + byteLength text⟩)
  | base {base after : List Char} {error : ParseError} : takeOperand text = some (base, after) →
      Operand.ofText base offset = .error error → Fails registry text offset error
  | filter {base after : List Char} {error : ParseError} : takeOperand text = some (base, after) →
      readFilters registry (offset + byteLength base) after = .error error → Fails registry text offset error
  | remainder {base after rest : List Char} {operand : Operand} {uses : List FilterUse} :
      takeOperand text = some (base, after) → Operand.ofText base offset = .ok operand →
      readFilters registry (offset + byteLength base) after = .ok (uses, rest) → rest ≠ [] →
      Fails registry text offset (.invalidRemainder (String.ofList rest) (String.ofList text)
        ⟨offset + byteLength text - byteLength rest, offset + byteLength text⟩)

theorem Expression.ofText_error {error : ParseError} (failed : ofText registry text offset = .error error) :
    Fails registry text offset error := by
  unfold ofText at failed
  split at failed
  next none =>
    split at failed
    next found => cases failed; exact .missing none found
    next found => cases failed; exact .nothing none (by simpa using found)
  next base after cut =>
    rcases Outcome.bind_eq_error.mp failed with failed | ⟨operand, readBase, failed⟩
    · exact .base cut failed
    · rcases Outcome.bind_eq_error.mp failed with failed | ⟨⟨uses, rest⟩, readUses, failed⟩
      · exact .filter cut failed
      · cases rest with
        | nil => cases failed
        | cons c rest => cases failed; exact .remainder cut readBase readUses (List.cons_ne_nil c rest)

theorem takeOperand_none (none : takeOperand text = none) {front rest : List Char} (split : text = front ++ rest) :
    ¬IsOperand front := by
  intro operand
  obtain ⟨longer, left, cut, -⟩ := takeOperand_reaches operand rest
  rw [← split, none] at cut
  cases cut

theorem Expression.leftOver {base after rest : List Char} {operand : Operand} {uses : List FilterUse}
    (cut : takeOperand text = some (base, after)) (readBase : Operand.ofText base offset = .ok operand)
    (readUses : readFilters registry (offset + byteLength base) after = .ok (uses, rest)) :
    LeftOver registry text rest := by
  obtain ⟨read, rfl⟩ := readFilters_eq_ok_iff.mp readUses
  obtain ⟨split, formed, -⟩ := cutFilters_sound after
  have text_eq := takeOperand_append cut
  refine Or.inl ⟨base ++ (cutFilters after).1.flatMap FilterText.text, ?_, ?_, fun other left same accepted => ?_⟩
  · rw [List.append_assoc, ← split]
    exact text_eq
  · exact ⟨base, (cutFilters after).1, ⟨rfl, takeOperand_sound cut, formed⟩,
      Operand.ofText_eq_ok_iff.mp ⟨operand, readBase⟩, usesReadFrom_iff.mp ⟨uses, read⟩⟩
  · obtain ⟨first, filters, ⟨rfl, isOperand, otherFormed⟩, -⟩ := accepted
    rw [List.append_assoc] at same
    rw [List.length_append, List.length_append]
    cases filters with
    | nil =>
      -- A lone operand may stop in the middle of the one that is cut off.
      obtain ⟨longer, behind, found, le⟩ := takeOperand_reaches isOperand ([].flatMap FilterText.text ++ left)
      rw [← same, cut] at found
      cases found
      simp only [List.flatMap_nil, List.length_nil]
      omega
    | cons f filters =>
      -- The bar of the first filter ends the operand, so it is the one that is cut off.
      have stops : Stops ((f :: filters).flatMap FilterText.text ++ left) := stops_of_filters otherFormed nofun
      have found := takeOperand_complete isOperand stops
      rw [← same, cut] at found
      cases found
      exact Nat.add_le_add_left (cutFilters_reaches otherFormed left) _

end

/-- Reading an expression succeeds just on the accepted texts of the grammar. A text splits in one way, and what
is read are its pieces in order. A remainder lies behind the longest accepted beginning, and a missing variable is
told just where a filter stands in its place. -/
theorem Expression.ofText_accepts (registry : Registry) (text : List Char) (offset : Nat) :
    ((∃ e, ofText registry text offset = .ok e) ↔ Accepted registry text) ∧
    (∀ base filters base' filters', Splits text base filters → Splits text base' filters' →
      base = base' ∧ filters = filters') ∧
    (∀ e, ofText registry text offset = .ok e → ∃ base filters, e.ReadFrom registry offset text base filters) ∧
    (∀ remainder token span, ofText registry text offset = .error (.invalidRemainder remainder token span) →
      LeftOver registry text remainder.toList) ∧
    ((∀ front rest, text = front ++ rest → ¬IsOperand front) →
      ((∃ token span, ofText registry text offset = .error (.missingVariable token span)) ↔
        ∃ f : FilterText, ∃ rest, f.WellFormed ∧ text = f.text ++ rest)) := by
  refine ⟨readFrom_iff, fun _ _ _ _ => Splits.unique, fun e => ofText_eq_ok_iff.mp, ?_, ?_⟩
  · intro remainder token span failed
    cases ofText_error failed with
    | nothing none =>
      -- Without an operand at the front no beginning is accepted.
      refine Or.inr ⟨String.toList_ofList, fun other left split accepted => ?_⟩
      obtain ⟨base, filters, splits, -⟩ := accepted
      rw [splits.text_eq, List.append_assoc] at split
      exact takeOperand_none none split splits.base
    | base cut failed => cases Operand.ofText_error failed
    | filter cut failed =>
      obtain ⟨passed, f, left, -, -, failed⟩ := readFilters_error failed
      rcases FilterUse.ofText_error failed with same | ⟨argument, -, failed⟩ | ⟨required, same⟩
      · cases same
      · cases Operand.ofText_error failed
      · cases same
    | remainder cut readBase readUses some =>
      rw [String.toList_ofList]
      exact leftOver cut readBase readUses
  · intro nothing
    have none : takeOperand text = none := by
      cases cut : takeOperand text with
      | none => rfl
      | some pair => exact absurd (takeOperand_sound cut) (nothing _ _ (takeOperand_append cut))
    constructor
    · rintro ⟨token, span, failed⟩
      cases ofText_error failed with
      | missing _ found =>
        obtain ⟨⟨f, rest⟩, cut⟩ := Option.isSome_iff_exists.mp found
        exact ⟨f, rest, takeFilter_sound cut, takeFilter_append cut⟩
      | base cut => rw [none] at cut; cases cut
      | filter cut => rw [none] at cut; cases cut
    · rintro ⟨f, rest, formed, split⟩
      obtain ⟨longer, left, cut, -⟩ := takeFilter_reaches formed rest
      rw [← split] at cut
      refine ⟨String.ofList text, .ofLength offset (byteLength text), ?_⟩
      unfold ofText
      simp only [none, cut]
      rfl

/-- A quoted bar before two filters, a remainder behind a filter, and a filter without an operand. -/
theorem Expression.ofText_accepts_filters :
    let registry := Registry.load .empty Fixture.customFilters
    let text := "'é|'|lower |cut:b.c".toList
    let filters : List FilterText := [⟨['|'], "lower".toList, none⟩, ⟨[' ', '|'], "cut".toList, some "b.c".toList⟩]
    let followed := "é|lower, x".toList
    let headless := " |cut:é".toList
    Accepted registry text ∧
      (∃ e, ofText registry text 3 = .ok e ∧ e.ReadFrom registry 3 text "'é|'".toList filters) ∧
      LeftOver registry followed ", x".toList ∧
      ∃ token span, ofText registry headless 3 = .error (.missingVariable token span) := by
  intro registry text filters followed headless
  have parts : Splits text "'é|'".toList filters :=
    splits_iff.mpr ⟨"|lower |cut:b.c".toList, by decide +kernel, by decide +kernel⟩
  have read : (ofText registry text 3).toOption.isSome = true := by decide +kernel
  obtain ⟨e, some_⟩ := Option.isSome_iff_exists.mp read
  have done : ofText registry text 3 = .ok e := Outcome.of_toOption some_
  obtain ⟨accepts, unique, reads, -, -⟩ := ofText_accepts registry text 3
  obtain ⟨base, others, from_⟩ := reads e done
  obtain ⟨rfl, rfl⟩ := unique _ _ _ _ from_.splits parts
  have remains : ofText registry followed 3 = .error (.invalidRemainder ", x" "é|lower, x" ⟨11, 14⟩) :=
    Outcome.of_map_error (fun _ => ()) (by decide +kernel)
  have headed : takeFilter headless = some (⟨[' ', '|'], "cut".toList, some ['é']⟩, []) := by decide +kernel
  have missing := (ofText_accepts registry headless 3).2.2.2.2 fun _ _ => takeOperand_none (by decide +kernel)
  exact ⟨accepts.mp ⟨e, done⟩, ⟨e, done, from_⟩, (ofText_accepts registry followed 3).2.2.2.1 _ _ _ remains,
    missing.mpr ⟨_, [], takeFilter_sound headed, takeFilter_append headed⟩⟩

end Stencil.Template
