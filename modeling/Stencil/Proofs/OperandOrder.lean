import Mathlib.Data.List.Pairwise
import Stencil.Proofs.Operands

/-! The order of the operands of a template in its source: the base of an expression stands before the arguments of
its filters, and those of one tag before those of the next, so that no place lies both in a base and in an argument. -/

set_option autoImplicit false

namespace Stencil

namespace Span

/-- A span lies in another one, whose ends it may share. -/
structure Within (inner outer : Span) : Prop where
  start_le : outer.start ≤ inner.start
  stop_le : inner.stop ≤ outer.stop

/-- One of the spans ends before the other starts. -/
def Apart (a b : Span) : Prop := a.stop < b.start ∨ b.stop < a.start

theorem Within.not_apart {inner a b : Span} (first : inner.Within a) (second : inner.Within b)
    (ordered : inner.start ≤ inner.stop) : ¬a.Apart b := by
  have ⟨_, _⟩ := first
  have ⟨_, _⟩ := second
  rw [Apart]
  omega

end Span

namespace Template

open Text (byteLength)

def Expression.arguments (e : Expression) : List Operand := e.filters.filterMap (·.argument)

def Node.bases : Node → List Operand
  | .variable e _ => [e.base]
  | .text .. | .load .. => []

def Node.arguments : Node → List Operand
  | .variable e _ => e.arguments
  | .text .. | .load .. => []

/-- No base of one of the nodes shares a place with an argument of the other. -/
def Node.Apart (a b : Node) : Prop :=
  (∀ base ∈ a.bases, ∀ argument ∈ b.arguments, base.span.Apart argument.span) ∧
    ∀ base ∈ b.bases, ∀ argument ∈ a.arguments, base.span.Apart argument.span

instance : Std.Symm Node.Apart := ⟨fun _ _ => And.symm⟩

/-- The bases of the expressions of a template. -/
def bases (template : Template) : List Operand := template.nodes.flatMap Node.bases

/-- The arguments of all filters that are used in a template. -/
def arguments (template : Template) : List Operand := template.nodes.flatMap Node.arguments

theorem bases_subset (template : Template) : template.bases ⊆ template.operands := by
  intro operand member
  obtain ⟨node, here, among⟩ := List.mem_flatMap.mp member
  cases node with
  | «variable» e span =>
    rw [List.mem_singleton.mp among]
    exact List.mem_flatMap.mpr ⟨_, here, List.mem_cons_self⟩
  | text => cases among
  | load => cases among

theorem arguments_subset (template : Template) : template.arguments ⊆ template.operands := by
  intro operand member
  obtain ⟨node, here, among⟩ := List.mem_flatMap.mp member
  cases node with
  | «variable» e span => exact List.mem_flatMap.mpr ⟨_, here, List.mem_cons_of_mem e.base among⟩
  | text => cases among
  | load => cases among

section
variable {registry : Registry} {position : Nat}

theorem UsesReadFrom.argument_between {filters : List FilterText} {uses : List FilterUse}
    (read : UsesReadFrom registry position filters uses) : ∀ argument ∈ uses.filterMap (·.argument),
      position < argument.span.start ∧
        argument.span.stop ≤ position + byteLength (filters.flatMap FilterText.text) := by
  induction filters generalizing position uses with
  | nil =>
    cases uses with
    | nil => exact nofun
    | cons => cases read
  | cons f filters ih =>
    cases uses with
    | nil => exact nofun
    | cons use uses =>
      intro argument member
      rw [List.flatMap_cons, Text.byteLength_append]
      obtain ⟨other, among, given⟩ := List.mem_filterMap.mp member
      rcases List.mem_cons.mp among with rfl | among
      · -- The argument stands behind the colon, at the end of the text of its filter.
        have related := read.1.argument
        have width : byteLength f.text =
            byteLength f.lead + byteLength f.name + byteLength (argumentText f.argument) := by
          rw [FilterText.text, Text.byteLength_append, Text.byteLength_append]
        rw [given] at related
        cases written : f.argument with
        | none =>
          rw [written] at related
          cases related
        | some text =>
          rw [written] at related width
          cases related with
          | some done =>
            have colon : byteLength (argumentText (some text)) = 1 + byteLength text := rfl
            rw [done.span]
            dsimp only
            omega
      · obtain ⟨behind, inside⟩ := ih read.2 argument (List.mem_filterMap.mpr ⟨other, among, given⟩)
        omega

/-- The base of an expression stands at its start, and each argument behind the base. -/
theorem Expression.ordered {text : List Char} {e : Expression} (done : ofText registry text position = .ok e) :
    e.base.span.start = position ∧ e.base.span.stop ≤ position + byteLength text ∧
      ∀ argument ∈ e.arguments, e.base.span.stop < argument.span.start ∧
        argument.span.stop ≤ position + byteLength text := by
  obtain ⟨base, filters, read⟩ := ofText_eq_ok_iff.mp done
  have between := read.uses.argument_between
  rw [read.operand.span, read.splits.text_eq, Text.byteLength_append]
  refine ⟨rfl, by dsimp only; omega, fun argument member => ?_⟩
  obtain ⟨behind, inside⟩ := between argument member
  exact ⟨behind, by omega⟩

end

theorem Adjoin.pairwise {start stop : Nat} {spans : List Span} (adjoin : Adjoin start spans stop) :
    (∀ span ∈ spans, start ≤ span.start) ∧ spans.Pairwise fun a b => a.stop ≤ b.start := by
  induction spans generalizing start with
  | nil => exact ⟨nofun, .nil⟩
  | cons span spans ih =>
    obtain ⟨begins, some_, rest⟩ := adjoin
    obtain ⟨behind, pairwise⟩ := ih rest
    refine ⟨List.forall_mem_cons.mpr ⟨Nat.le_of_eq begins.symm, fun other member => ?_⟩, .cons behind pairwise⟩
    exact Nat.le_trans (Nat.le_of_lt some_) (behind other member)

section
variable {catalog : Catalog} {builtins : List String} {source : String} {registry scope : Registry}

/-- A node covers the token that it was read from. -/
theorem readToken_span {token : Token} {node : Node}
    (read : readToken catalog source registry token = .ok (some node, scope)) : node.span = token.span := by
  cases token with
  | text => cases read; rfl
  | tag kind content span contentSpan =>
    cases kind with
    | comment => cases read
    | «variable» =>
      rw [readToken] at read
      split at read
      next => cases read
      next =>
        obtain ⟨e, -, same⟩ := Outcome.bind_eq_ok.mp read
        cases same
        rfl
    | block =>
      obtain ⟨⟨load, final⟩, done, same⟩ := Outcome.bind_eq_ok.mp read
      cases same
      obtain ⟨words, -, -, rfl, -⟩ := readBlock_eq_ok_iff.mp done
      rfl

theorem readTokens_spans {tokens : List Token} {nodes : List Node}
    (read : readTokens catalog source registry tokens = .ok (nodes, scope)) :
    (nodes.map Node.span).Sublist (tokens.map Token.span) := by
  induction tokens generalizing registry nodes with
  | nil =>
    cases read
    exact .slnil
  | cons token tokens ih =>
    obtain ⟨node, next, later, first, rest, rfl⟩ := readTokens_cons_eq_ok_iff.mp read
    cases node with
    | none => exact (ih rest).cons _
    | some node =>
      rw [List.map_cons, ← readToken_span first]
      exact (ih rest).cons_cons _

variable {template : Template}

/-- The nodes of a template stand one behind the other. -/
theorem parse_nodes_ordered (done : parse catalog builtins source = .ok template) :
    template.nodes.Pairwise fun a b => a.span.stop ≤ b.span.start := by
  obtain ⟨tokens, -, scanned, read⟩ := parse_eq_ok done
  have answers := Token.scan_answers source
  rw [scanned] at answers
  exact List.pairwise_map.mp (answers.2.adjoin.pairwise.2.sublist (readTokens_spans read))

/-- The operands of a node stand inside it. -/
theorem parse_operand_within (done : parse catalog builtins source = .ok template) {node : Node}
    (member : node ∈ template.nodes) : ∀ operand ∈ node.bases ++ node.arguments,
      node.span.start < operand.span.start ∧ operand.span.stop < node.span.stop := by
  cases node with
  | text => exact nofun
  | load => exact nofun
  | «variable» e span =>
    obtain ⟨registry, text, position, -, opened, closed, -, read⟩ := parse_expression done member
    obtain ⟨start, stop, arguments⟩ := Expression.ordered read
    have width : position ≤ e.base.span.stop := by
      obtain ⟨base, filters, from_⟩ := Expression.ofText_eq_ok_iff.mp read
      rw [from_.operand.span]
      exact Nat.le_add_right _ _
    refine List.forall_mem_append.mpr ⟨List.forall_mem_singleton.mpr ?_, fun argument among => ?_⟩
    · show span.start < _ ∧ _ < span.stop
      omega
    · obtain ⟨behind, inside⟩ := arguments argument among
      show span.start < _ ∧ _ < span.stop
      omega

theorem parse_node_apart (done : parse catalog builtins source = .ok template) {node : Node}
    (member : node ∈ template.nodes) :
    ∀ base ∈ node.bases, ∀ argument ∈ node.arguments, base.span.Apart argument.span := by
  cases node with
  | text => exact nofun
  | load => exact nofun
  | «variable» e span =>
    obtain ⟨registry, text, position, -, -, -, -, read⟩ := parse_expression done member
    intro base isBase argument isArgument
    rw [List.mem_singleton.mp isBase]
    exact Or.inl ((Expression.ordered read).2.2 argument isArgument).1

/-- No place lies both in a base and in an argument. -/
theorem parse_bases_apart (done : parse catalog builtins source = .ok template) :
    ∀ base ∈ template.bases, ∀ argument ∈ template.arguments, base.span.Apart argument.span := by
  have pairwise : template.nodes.Pairwise Node.Apart := by
    refine (parse_nodes_ordered done).imp_of_mem fun inA inB ordered => ⟨?_, ?_⟩
    · intro base isBase argument isArgument
      have left := parse_operand_within done inA base (List.mem_append_left _ isBase)
      have right := parse_operand_within done inB argument (List.mem_append_right _ isArgument)
      rw [Span.Apart]
      omega
    · intro base isBase argument isArgument
      have left := parse_operand_within done inB base (List.mem_append_left _ isBase)
      have right := parse_operand_within done inA argument (List.mem_append_right _ isArgument)
      rw [Span.Apart]
      omega
  have itself : ∀ node ∈ template.nodes, node.Apart node := fun node member =>
    ⟨parse_node_apart done member, parse_node_apart done member⟩
  intro base isBase argument isArgument
  obtain ⟨a, inA, isBase⟩ := List.mem_flatMap.mp isBase
  obtain ⟨b, inB, isArgument⟩ := List.mem_flatMap.mp isArgument
  exact (pairwise.forall_of_forall itself inA inB).1 base isBase argument isArgument

end

end Template

end Stencil
