import Stencil.Proofs.Loading
import Stencil.Proofs.Acceptance

/-! Reading the same text further on in a source: all that is read is the same but for its spans, which are shifted
along. -/

set_option autoImplicit false

namespace Stencil

theorem Span.shift_ofLength (offset start length : Nat) :
    ofLength (start + offset) length = (ofLength start length).shift offset := by
  simp [ofLength, shift, Nat.add_right_comm]

namespace Template

open Text (byteLength)

section
variable (offset : Nat)

def Segment.shift (segment : Segment) : Segment := { segment with span := segment.span.shift offset }

def Path.shift (path : Path) : Path := ⟨path.segments.map (Segment.shift offset), path.span.shift offset⟩

def Operand.shift : Operand → Operand
  | literal value span => .literal value (span.shift offset)
  | path p => .path (p.shift offset)

def FilterUse.shift (use : FilterUse) : FilterUse :=
  { use with argument := use.argument.map (Operand.shift offset), span := use.span.shift offset }

def Expression.shift (e : Expression) : Expression :=
  ⟨e.base.shift offset, e.filters.map (FilterUse.shift offset), e.token, e.span.shift offset⟩

def Node.shift : Node → Node
  | text content span => .text content (span.shift offset)
  | «variable» e span => .variable (e.shift offset) (span.shift offset)
  | load asked span => .load asked (span.shift offset)

def Token.shift : Token → Token
  | text content span => .text content (span.shift offset)
  | tag kind content span contentSpan => .tag kind content (span.shift offset) (contentSpan.shift offset)

def Bit.shift (bit : Bit) : Bit := { bit with span := bit.span.shift offset }

/-- The error further on; the line that it tells stays. -/
def ParseError.shift : ParseError → ParseError
  | unclosedTag kind span => .unclosedTag kind (span.shift offset)
  | emptyVariable line span => .emptyVariable line (span.shift offset)
  | emptyTag line span => .emptyTag line (span.shift offset)
  | missingVariable token span => .missingVariable token (span.shift offset)
  | invalidRemainder remainder token span => .invalidRemainder remainder token (span.shift offset)
  | underscoreName operand span => .underscoreName operand (span.shift offset)
  | unknownTag tag line span => .unknownTag tag line (span.shift offset)
  | unknownLibrary library available span => .unknownLibrary library available (span.shift offset)
  | notInLibrary filter library span => .notInLibrary filter library (span.shift offset)
  | unknownFilter filter span => .unknownFilter filter (span.shift offset)
  | filterArity filter required provided span => .filterArity filter required provided (span.shift offset)

/-- What reading gives further on: the same error shifted, or the result moved along. -/
def shifted {α β : Type} (move : α → β) : Except ParseError α → Except ParseError β
  | .ok a => .ok (move a)
  | .error error => .error (error.shift offset)

@[simp] theorem shifted_ok {α β : Type} (move : α → β) (a : α) : shifted offset move (.ok a) = .ok (move a) := rfl

@[simp] theorem shifted_error {α β : Type} (move : α → β) (error : ParseError) :
    shifted offset move (.error error) = .error (error.shift offset) := rfl

theorem shifted_bind {α α' β β' : Type} {move : α → α'} {move' : β → β'} (first : Except ParseError α)
    {next : α → Except ParseError β} {next' : α' → Except ParseError β'}
    (same : ∀ a, next' (move a) = shifted offset move' (next a)) :
    (shifted offset move first >>= next') = shifted offset move' (first >>= next) := by
  cases first with
  | ok a => exact same a
  | error error => rfl

/-! ### Tokens and words -/

theorem Token.shift_ofTag (kind : Delimiter) (start : Nat) (inner : List Char) :
    ofTag kind (start + offset) inner = (ofTag kind start inner).shift offset := by
  simp [ofTag, shift, Span.shift, Span.ofLength]
  omega

variable {position : Nat}

theorem Token.shift_ofText {pending : List Char} (held : byteLength pending ≤ position) :
    ofText pending (position + offset) = (ofText pending position).map (shift offset) := by
  rw [ofText, ofText]
  split
  next => rfl
  next => simp [shift, Span.shift, Nat.sub_add_comm held]

theorem Token.shift_scanFrom {pending cs : List Char} (held : byteLength pending ≤ position) :
    scanFrom (position + offset) pending cs =
      shifted offset (List.map (shift offset)) (scanFrom position pending cs) := by
  -- The text that is held stands before the position: its start is got by a subtraction that must not be cut off.
  fun_induction scanFrom position pending cs with
  | case1 position pending => rw [scanFrom, shift_ofText offset held, shifted_ok]
  | case2 position pending c rest closed ih =>
    rw [scanFrom, closed, Nat.add_right_comm]
    exact ih (by rw [Text.byteLength_cons]; omega)
  | case3 position pending c rest kind opens cut =>
    rw [scanFrom, opens]
    simp only
    split
    next => rw [Span.shift_ofLength, shifted_error, ParseError.shift]
    next found => rw [cut] at found; cases found
  | case4 position pending c rest kind opens inner after cut newline ih =>
    rw [scanFrom, opens]
    simp only
    split
    next found => rw [cut] at found; cases found
    next found =>
      rw [cut] at found
      cases found
      rw [if_pos newline, Nat.add_right_comm]
      exact ih (by rw [Text.byteLength_cons]; omega)
  | case5 position pending c rest kind opens inner after cut oneLine ih =>
    rw [scanFrom, opens]
    simp only
    split
    next found => rw [cut] at found; cases found
    next found =>
      rw [cut] at found
      cases found
      have further : position + offset + 4 + byteLength inner = position + 4 + byteLength inner + offset := by omega
      rw [if_neg oneLine, further, ih (Nat.zero_le _)]
      refine shifted_bind offset _ fun tokens => ?_
      simp [pure, Except.pure, shift_ofText offset held, shift_ofTag]

theorem Bit.shift_ofReversed {reversed : List Char} (held : byteLength reversed ≤ position) :
    ofReversed reversed (position + offset) = (ofReversed reversed position).map (shift offset) := by
  rw [ofReversed, ofReversed]
  split
  next => rfl
  next => simp [shift, Span.shift, Nat.sub_add_comm held]

theorem Bit.shift_splitFrom {quoting : Quoting} {pending cs : List Char} (held : byteLength pending ≤ position) :
    splitFrom (position + offset) quoting pending cs = (splitFrom position quoting pending cs).map (shift offset) := by
  induction cs generalizing position quoting pending with
  | nil => exact shift_ofReversed offset held
  | cons c cs ih =>
    rw [splitFrom, splitFrom, Nat.add_right_comm]
    split
    next => rw [shift_ofReversed offset held, ih (Nat.zero_le _), List.map_append]
    next => exact ih (by rw [Text.byteLength_cons]; omega)

theorem Bit.shift_split (content : String) (start : Nat) :
    split content (start + offset) = (split content start).map (shift offset) :=
  shift_splitFrom offset (Nat.zero_le _)

/-! ### Expressions -/

theorem Path.shift_layOut (names : List String) :
    layOut (position + offset) names = (layOut position names).map (Segment.shift offset) := by
  induction names generalizing position with
  | nil => rfl
  | cons name names ih =>
    have further : position + offset + name.utf8ByteSize + 1 = position + name.utf8ByteSize + 1 + offset := by omega
    rw [layOut, layOut, further, ih, Span.shift_ofLength]
    rfl

theorem Path.shift_ofText (text : List Char) (start : Nat) :
    ofText text (start + offset) = (ofText text start).shift offset := by
  rw [ofText, shift_layOut, Span.shift_ofLength]
  rfl

theorem Operand.shift_ofText (text : List Char) (start : Nat) :
    ofText text (start + offset) = shifted offset (shift offset) (ofText text start) := by
  unfold ofText
  rw [Span.shift_ofLength]
  split
  next => rfl
  next =>
    split
    next => rfl
    next =>
      split
      next => rfl
      next => rw [Path.shift_ofText]; rfl

section
variable (registry : Registry)

theorem FilterUse.shift_ofText (start : Nat) (f : FilterText) :
    ofText registry (start + offset) f = shifted offset (shift offset) (ofText registry start f) := by
  have argument : f.argument.mapM (Operand.ofText · (start + offset + byteLength f.lead + byteLength f.name + 1)) =
      shifted offset (Option.map (Operand.shift offset))
        (f.argument.mapM (Operand.ofText · (start + byteLength f.lead + byteLength f.name + 1))) := by
    cases f.argument with
    | none => rfl
    | some text =>
      have further : start + offset + byteLength f.lead + byteLength f.name + 1 =
          start + byteLength f.lead + byteLength f.name + 1 + offset := by omega
      rw [Option.mapM_some, Option.mapM_some, further, Operand.shift_ofText]
      cases Operand.ofText text (start + byteLength f.lead + byteLength f.name + 1) <;> rfl
  unfold ofText
  dsimp only
  rw [argument]
  cases registry.get? (String.ofList f.name) with
  | none => simp [ParseError.shift, Span.shift]; omega
  | some bound =>
    refine shifted_bind offset _ fun argument => ?_
    have given : (argument.map (Operand.shift offset)).isSome = argument.isSome := Option.isSome_map
    simp only [given, Nat.add_right_comm start offset]
    by_cases accepts : bound.filter.arity.accepts (if argument.isSome then 2 else 1)
    · rw [if_pos accepts, if_pos accepts]
      rfl
    · rw [if_neg accepts, if_neg accepts]
      rfl

theorem shift_readFilters (cs : List Char) : readFilters registry (position + offset) cs =
    shifted offset (Prod.map (List.map (FilterUse.shift offset)) id) (readFilters registry position cs) := by
  fun_induction readFilters registry position cs with
  | case1 position cs cut => rw [readFilters_of_none cut]; rfl
  | case2 position cs f after cut ih =>
    rw [readFilters_of_some cut, FilterUse.shift_ofText, Nat.add_right_comm, ih]
    exact shifted_bind offset _ fun first => shifted_bind offset _ fun others => rfl

theorem Expression.shift_ofText (text : List Char) (start : Nat) :
    ofText registry text (start + offset) = shifted offset (shift offset) (ofText registry text start) := by
  unfold ofText
  dsimp only
  rw [Span.shift_ofLength]
  cases cut : takeOperand text with
  | none => dsimp only; split <;> rfl
  | some pair =>
    obtain ⟨operand, after⟩ := pair
    dsimp only
    rw [Operand.shift_ofText, Nat.add_right_comm, shift_readFilters]
    refine shifted_bind offset _ fun base => ?_
    cases read : readFilters registry (start + byteLength operand) after with
    | error error => rfl
    | ok result =>
      obtain ⟨filters, rest⟩ := result
      -- What is left over stands at the end of the text.
      have inside : byteLength rest ≤ byteLength text := by
        rw [takeOperand_append cut, (cutFilters_sound after).1, (readFilters_eq_ok_iff.mp read).2,
          Text.byteLength_append, Text.byteLength_append]
        omega
      simp only [shifted_ok, bind, Except.bind, Prod.map, id]
      by_cases empty : rest.isEmpty
      · rw [if_pos empty, if_pos empty]
        rfl
      · rw [if_neg empty, if_neg empty]
        simp only [throw, throwThe, MonadExceptOf.throw, shifted_error, ParseError.shift, Span.shift, Span.ofLength]
        rw [← Nat.sub_add_comm (Nat.le_add_left_of_le inside)]

/-! ### Load tags -/

theorem shift_library (catalog : Catalog) (name : String) (span : Span) :
    catalog.library name (span.shift offset) = shifted offset id (catalog.library name span) := by
  unfold Catalog.library
  cases catalog.find? name <;> rfl

variable (catalog : Catalog) (library : Library) (asked : String)

theorem shift_loadLibraries (bits : List Bit) : loadLibraries catalog registry (bits.map (Bit.shift offset)) =
    shifted offset id (loadLibraries catalog registry bits) := by
  induction bits generalizing registry with
  | nil => rfl
  | cons bit bits ih =>
    rw [List.map_cons, loadLibraries, loadLibraries, Bit.shift, shift_library]
    exact shifted_bind offset _ fun library => ih (registry.load library)

theorem shift_filtersNamed (bits : List Bit) : filtersNamed library asked (bits.map (Bit.shift offset)) =
    shifted offset id (filtersNamed library asked bits) := by
  induction bits with
  | nil => rfl
  | cons bit bits ih =>
    have name : (bit.shift offset).text = bit.text := rfl
    rw [List.map_cons, filtersNamed, filtersNamed, ih, name]
    cases library.filter? bit.text with
    | none => rfl
    | some filter => exact shifted_bind offset _ fun others => rfl

theorem shift_splitFrom? (bits : List Bit) : splitFrom? (bits.map (Bit.shift offset)) =
    (splitFrom? bits).map (Prod.map (List.map (Bit.shift offset)) (Bit.shift offset)) := by
  unfold splitFrom?
  rw [← List.map_reverse]
  rcases bits.reverse with _ | ⟨library, _ | ⟨word, _ | ⟨name, names⟩⟩⟩
  · rfl
  · rfl
  · rfl
  · have text : (word.shift offset).text = word.text := rfl
    simp only [List.map_cons, text]
    split
    next => simp [Prod.map]
    next => rfl

theorem Load.shift_ofBits (bits : List Bit) :
    ofBits catalog registry (bits.map (Bit.shift offset)) = shifted offset id (ofBits catalog registry bits) := by
  have texts (words : List Bit) : (words.map (Bit.shift offset)).map (·.text) = words.map (·.text) := by
    simp [Bit.shift, Function.comp_def]
  unfold ofBits
  rw [shift_splitFrom?]
  cases splitFrom? bits with
  | none =>
    simp only [Option.map_none, shift_loadLibraries]
    exact shifted_bind offset _ fun scope => by rw [texts]; rfl
  | some pair =>
    obtain ⟨names, source⟩ := pair
    simp only [Option.map_some, Prod.map, Bit.shift, shift_library]
    refine shifted_bind offset _ fun library => ?_
    rw [shift_filtersNamed]
    exact shifted_bind offset _ fun filters => by rw [texts]; rfl

/-! ### Nodes -/

variable {source other : String} (lines : ∀ span : Span, lineOf other (span.shift offset) = lineOf source span)
include lines

theorem shift_readBlock (content : String) (span contentSpan : Span) :
    readBlock catalog other registry content (span.shift offset) (contentSpan.shift offset) =
      shifted offset (Prod.map (Node.shift offset) id) (readBlock catalog source registry content span contentSpan) := by
  have words : Bit.split content (contentSpan.shift offset).start =
      (Bit.split content contentSpan.start).map (Bit.shift offset) := Bit.shift_split offset content contentSpan.start
  unfold readBlock
  rw [words, lines]
  cases Bit.split content contentSpan.start with
  | nil => rfl
  | cons command arguments =>
    have text : (command.shift offset).text = command.text := rfl
    simp only [List.map_cons, text, Load.shift_ofBits]
    by_cases load : command.text = "load"
    · rw [if_pos load, if_pos load]
      exact shifted_bind offset _ fun asked => rfl
    · rw [if_neg load, if_neg load]
      rfl

theorem shift_readToken (token : Token) : readToken catalog other registry (token.shift offset) =
    shifted offset (Prod.map (Option.map (Node.shift offset)) id) (readToken catalog source registry token) := by
  cases token with
  | text => rfl
  | tag kind content span contentSpan =>
    cases kind with
    | comment => rfl
    | block =>
      rw [Token.shift, readToken, readToken, shift_readBlock offset registry catalog lines]
      exact shifted_bind offset _ fun made => rfl
    | «variable» =>
      have expression : Expression.ofText registry content.toList (contentSpan.shift offset).start =
          shifted offset (Expression.shift offset) (Expression.ofText registry content.toList contentSpan.start) :=
        Expression.shift_ofText offset registry content.toList contentSpan.start
      rw [Token.shift, readToken, readToken, lines, expression]
      by_cases empty : content.isEmpty
      · rw [if_pos empty, if_pos empty]
        rfl
      · rw [if_neg empty, if_neg empty]
        exact shifted_bind offset _ fun e => rfl

theorem shift_readTokens (tokens : List Token) :
    readTokens catalog other registry (tokens.map (Token.shift offset)) =
      shifted offset (Prod.map (List.map (Node.shift offset)) id) (readTokens catalog source registry tokens) := by
  induction tokens generalizing registry with
  | nil => rfl
  | cons token tokens ih =>
    rw [List.map_cons, readTokens, readTokens, shift_readToken offset registry catalog lines]
    refine shifted_bind offset _ fun (node, scope) => ?_
    simp only [Prod.map, id, ih]
    exact shifted_bind offset _ fun (nodes, final) => by cases node <;> rfl

end

end

end Template

end Stencil
