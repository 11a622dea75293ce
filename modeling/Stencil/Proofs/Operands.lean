import Stencil.Proofs.Scoping
import Stencil.Proofs.SpanFidelity

/-! The operands of a template: every base and every argument was read from a text of the source. -/

set_option autoImplicit false

namespace Stencil.Template

open Text (byteLength StandsAt isBlank trim)

/-- The base of an expression and the arguments of its filters. -/
def Expression.operands (e : Expression) : List Operand := e.base :: e.filters.filterMap (·.argument)

/-- The operands of the variable tags of a template. -/
def operands (template : Template) : List Operand :=
  template.nodes.flatMap fun
    | .variable e _ => e.operands
    | _ => []

/-- An operand that was read from a text where that stands in the source. -/
structure Operand.ReadAt (source : String) (text : List Char) (position : Nat) (operand : Operand) : Prop where
  stands : StandsAt source.toList position text
  grammar : IsOperand text
  read : ofText text position = .ok operand

theorem arguments_cons (use : FilterUse) (filters : List FilterUse) : (use :: filters).filterMap (·.argument) =
    use.argument.toList ++ filters.filterMap (·.argument) := by
  rw [List.filterMap_cons]
  cases use.argument <;> rfl

theorem mem_operands {template : Template} {operand : Operand} (member : operand ∈ template.operands) :
    ∃ e span, Node.variable e span ∈ template.nodes ∧ operand ∈ e.operands := by
  obtain ⟨node, here, member⟩ := List.mem_flatMap.mp member
  cases node with
  | «variable» e span => exact ⟨e, span, here, member⟩
  | text => cases member
  | load => cases member

section
variable {source : String} {registry : Registry} {position : Nat}

theorem FilterUse.argument_readAt {f : FilterText} {use : FilterUse} (stands : StandsAt source.toList position f.text)
    (formed : f.WellFormed) (read : use.ReadFrom registry position f) {operand : Operand}
    (argument : use.argument = some operand) : ∃ text start, operand.ReadAt source text start := by
  have related := read.argument
  rw [argument] at related
  cases given : f.argument with
  | none =>
    rw [given] at related
    cases related
  | some text =>
    rw [given] at related
    cases related with
    | some done => exact ⟨text, _, FilterText.argument_stands stands given, formed.argument text given, done.read⟩

theorem UsesReadFrom.argument_readAt {filters : List FilterText} {uses : List FilterUse}
    (stands : StandsAt source.toList position (filters.flatMap FilterText.text)) (formed : ∀ f ∈ filters, f.WellFormed)
    (read : UsesReadFrom registry position filters uses) {operand : Operand} :
    ∀ use ∈ uses, use.argument = some operand → ∃ text start, operand.ReadAt source text start := by
  induction filters generalizing position uses with
  | nil =>
    cases uses with
    | nil => exact nofun
    | cons => cases read
  | cons f filters ih =>
    cases uses with
    | nil => exact nofun
    | cons use uses =>
      rw [List.flatMap_cons] at stands
      obtain ⟨here, rest⟩ := List.forall_mem_cons.mp formed
      exact List.forall_mem_cons.mpr
        ⟨FilterUse.argument_readAt stands.left here read.1, ih stands.right rest read.2⟩

theorem Expression.operand_readAt {text : List Char} {e : Expression} (stands : StandsAt source.toList position text)
    (done : ofText registry text position = .ok e) :
    ∀ operand ∈ e.operands, ∃ text start, operand.ReadAt source text start := by
  obtain ⟨base, filters, read⟩ := ofText_eq_ok_iff.mp done
  rw [read.splits.text_eq] at stands
  refine List.forall_mem_cons.mpr ⟨⟨base, position, stands.left, read.splits.base, read.operand.read⟩, ?_⟩
  intro operand member
  obtain ⟨use, here, argument⟩ := List.mem_filterMap.mp member
  exact read.uses.argument_readAt stands.right read.splits.filters use here argument

end

section
variable {catalog : Catalog} {builtins : List String} {source : String} {registry scope : Registry}

theorem mem_of_readTokens {tokens : List Token} {nodes : List Node} {node : Node}
    (read : readTokens catalog source registry tokens = .ok (nodes, scope)) (member : node ∈ nodes) :
    ∃ token ∈ tokens, ∃ before behind, readToken catalog source before token = .ok (some node, behind) := by
  induction tokens generalizing registry nodes with
  | nil =>
    cases read
    cases member
  | cons token tokens ih =>
    obtain ⟨made, next, later, first, rest, rfl⟩ := readTokens_cons_eq_ok_iff.mp read
    rcases List.mem_append.mp member with here | behind
    · rw [Option.mem_toList] at here
      exact ⟨token, List.mem_cons_self, registry, next, here ▸ first⟩
    · obtain ⟨other, among, found⟩ := ih rest behind
      exact ⟨other, List.mem_cons_of_mem token among, found⟩

/-- The expression of a variable tag was read from a text that stands between the marks of the tag. -/
theorem parse_expression {template : Template} {e : Expression} {span : Span}
    (done : parse catalog builtins source = .ok template) (member : Node.variable e span ∈ template.nodes) :
    ∃ registry text position, StandsAt source.toList position text ∧ span.start + 2 ≤ position ∧
      position + byteLength text + 2 ≤ span.stop ∧ span.stop ≤ byteLength source.toList ∧
      Expression.ofText registry text position = .ok e := by
  obtain ⟨tokens, -, scanned, read⟩ := parse_eq_ok done
  have answers := Token.scan_answers source
  rw [scanned] at answers
  obtain ⟨token, among, registry, behind, made⟩ := mem_of_readTokens read member
  cases answers.2.placed token among with
  | text => cases made
  | @tag before inner after kind split oneLine =>
    cases kind with
    | comment => cases made
    | block =>
      obtain ⟨⟨load, final⟩, blockRead, same⟩ := Outcome.bind_eq_ok.mp made
      obtain ⟨words, -, -, rfl, -⟩ := readBlock_eq_ok_iff.mp blockRead
      cases same
    | «variable» =>
      rw [Token.ofTag, readToken] at made
      split at made
      next => cases made
      next =>
        obtain ⟨expression, ofText, same⟩ := Outcome.bind_eq_ok.mp made
        cases same
        rw [String.toList_ofList] at ofText
        obtain ⟨tail, -, blanks⟩ := Text.trim_split inner
        have width := congrArg byteLength blanks
        simp only [Text.byteLength_append] at width
        refine ⟨registry, trim inner, _, Token.content_stands split, ?_, ?_, ?_, ofText⟩
        · dsimp only
          omega
        · dsimp only
          omega
        · simp only [split, Text.byteLength_append, Delimiter.byteLength_openText, Delimiter.byteLength_closeText]
          omega

theorem parse_operand {template : Template} {operand : Operand} (done : parse catalog builtins source = .ok template)
    (member : operand ∈ template.operands) : ∃ text position, operand.ReadAt source text position ∧
      position + byteLength text < byteLength source.toList := by
  obtain ⟨e, span, node, among⟩ := mem_operands member
  obtain ⟨registry, text, position, stands, -, closed, inBounds, read⟩ := parse_expression done node
  obtain ⟨before, after, split, width⟩ := stands
  -- The operand also stands in the source up to the end of the expression, so no more than that is left of it.
  have short : StandsAt (String.ofList (before ++ text)).toList position text :=
    ⟨before, [], by rw [String.toList_ofList, List.append_nil], width⟩
  obtain ⟨piece, start, readAt⟩ := Expression.operand_readAt short read operand among
  have inside := readAt.stands.le
  have stands := readAt.stands.append after
  rw [String.toList_ofList, ← split] at stands
  rw [String.toList_ofList, Text.byteLength_append, width] at inside
  exact ⟨piece, start, ⟨stands, readAt.grammar, readAt.read⟩, by omega⟩

end

/-- A path is read from the text of a variable, cut at its points. -/
theorem Operand.ReadAt.path {source : String} {text : List Char} {position : Nat} {p : Path}
    (read : (Operand.path p).ReadAt source text position) : p = Path.ofText text position ∧ IsVariable text := by
  have done := read.read
  have quoted := read.grammar
  unfold ofText at done
  split at done
  next => cases done
  next unquoted =>
    split at done
    next => cases done
    next =>
      split at done
      next => cases done
      next =>
        cases done
        refine ⟨rfl, quoted.resolve_left ?_⟩
        rintro ⟨quote, body, mark, -, rfl⟩
        rcases mark with rfl | rfl <;> simp [isQuote] at unquoted

end Stencil.Template
