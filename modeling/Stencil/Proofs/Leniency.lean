import Stencil.Proofs.Escaping
import Stencil.Proofs.Failure
import Stencil.Proofs.OperandOrder
import Stencil.Proofs.Traversal

/-! The same template rendered strictly and leniently: the two go the same way up to a base that names something
missing, and a name that is missing in an argument is a failure for both. -/

set_option autoImplicit false

namespace Stencil

/-- A missing name is the only thing that a lenient evaluation hides. -/
theorem Evaluation.orMissing_cases {α : Type} (x : Evaluation α) : x.orMissing = some <$> x ∨
    ∃ key object keySpan objectSpan, x.outcome = .error (.missing key object keySpan objectSpan) := by
  rw [map_eq_pure_bind, orMissing]
  split
  next a done => exact Or.inl (by rw [bind_ok done, pure_eq, List.append_nil])
  next key object keySpan objectSpan failed => exact Or.inr ⟨key, object, keySpan, objectSpan, failed⟩
  next error _ failed => exact Or.inl (by rw [bind_error failed])

namespace Template

/-- The error tells that a name of one of the operands is missing. -/
def Misses (context : Context) (operands : List Operand) (error : RenderError) : Prop :=
  (∃ operand ∈ operands, (operand.resolve context).outcome = .error error) ∧
    ∃ key object keySpan objectSpan, error = .missing key object keySpan objectSpan

section
variable {context : Context} {settings : Settings} {error : RenderError}

theorem Misses.mono {some_ all : List Operand} (misses : Misses context some_ error) (among : some_ ⊆ all) :
    Misses context all error :=
  misses.imp_left fun ⟨operand, member, failed⟩ => ⟨operand, among member, failed⟩

theorem Raises.misses {operands : List Operand} {key object : String} {keySpan : Span} {objectSpan : Option Span}
    (raises : Raises context operands (.missing key object keySpan objectSpan)) :
    Misses context operands (.missing key object keySpan objectSpan) := by
  rcases raises with failed | ⟨failure, same⟩
  · exact ⟨failed, key, object, keySpan, objectSpan, rfl⟩
  · cases failure <;> cases same

/-- A lenient expression is the strict one, unless its base names something missing, at which the strict one fails. -/
theorem Expression.render_modes (e : Expression) (context : Context) (settings : Settings) :
    e.render context { settings with undefined := .lenient } = e.render context { settings with undefined := .strict } ∨
      ∃ error, Misses context [e.base] error ∧
        (e.render context { settings with undefined := .strict }).outcome = .error error := by
  cases base : e.base with
  | literal value span =>
    left
    rw [render, render, base]
  | path path =>
    rw [render, render, base]
    dsimp only
    rcases (path.resolve context).orMissing_cases with same | ⟨key, object, keySpan, objectSpan, failed⟩
    · left
      rw [same, bind_map_left]
      rfl
    · right
      have failed : ((Operand.path path).resolve context).outcome = _ := failed
      refine ⟨_, ⟨⟨_, List.mem_singleton_self _, failed⟩, key, object, keySpan, objectSpan, rfl⟩, ?_⟩
      rw [Evaluation.bind_error failed]

theorem Node.render_modes (node : Node) (context : Context) (settings : Settings) :
    node.render context { settings with undefined := .lenient } =
        node.render context { settings with undefined := .strict } ∨
      ∃ error, Misses context node.bases error ∧
        (node.render context { settings with undefined := .strict }).outcome = .error error := by
  cases node with
  | text => exact Or.inl rfl
  | load => exact Or.inl rfl
  | «variable» e span => exact e.render_modes context settings

theorem renderNodes_modes (nodes : List Node) (context : Context) (settings : Settings) :
    renderNodes context { settings with undefined := .lenient } nodes =
        renderNodes context { settings with undefined := .strict } nodes ∨
      ∃ error, Misses context (nodes.flatMap Node.bases) error ∧
        (renderNodes context { settings with undefined := .strict } nodes).outcome = .error error := by
  induction nodes with
  | nil => exact Or.inl rfl
  | cons node nodes ih =>
    rw [renderNodes, renderNodes, List.flatMap_cons]
    rcases node.render_modes context settings with same | ⟨error, misses, failed⟩
    · rw [same]
      cases first : (node.render context { settings with undefined := .strict }).outcome with
      | error error =>
        -- Both end here, whatever is behind.
        left
        rw [Evaluation.bind_error first, Evaluation.bind_error first]
      | ok text =>
        rcases ih with others | ⟨error, misses, failed⟩
        · left
          rw [others]
        · right
          refine ⟨error, misses.mono (List.subset_append_right _ _), ?_⟩
          rw [Evaluation.bind_ok first, Evaluation.bind_error failed]
    · right
      refine ⟨error, misses.mono (List.subset_append_left _ _), ?_⟩
      rw [Evaluation.bind_error failed]

/-- A lenient evaluation fails only as the host does. -/
theorem orMissing_raises {α : Type} {x : Evaluation α} (failed : x.orMissing.outcome = .error error) :
    ∃ failure : HostFailure, error = failure.toRenderError := by
  have original := orMissing_error failed
  cases error with
  | missing =>
    rw [Evaluation.orMissing, original] at failed
    cases failed
  | host error => exact ⟨.raised error, rfl⟩
  | exhausted => exact ⟨.exhausted, rfl⟩

theorem Expression.shown_lenient_raises {e : Expression}
    (failed : (e.shown context { settings with undefined := .lenient }).outcome = .error error) :
    Raises context e.arguments error := by
  cases base : e.base with
  | literal value span =>
    rw [shown, base] at failed
    exact applyFilters_raises failed
  | path path =>
    rw [shown, base] at failed
    dsimp only at failed
    rw [Evaluation.outcome_bind] at failed
    rcases Outcome.bind_eq_error.mp failed with failed | ⟨found, -, failed⟩
    · exact Or.inr (orMissing_raises failed)
    · cases found with
      | some value => exact applyFilters_raises failed
      | none =>
        by_cases empty : settings.stringIfInvalid.isEmpty
        · rw [if_pos empty] at failed
          exact applyFilters_raises failed
        · rw [if_neg empty] at failed
          cases failed

theorem renderNodes_lenient_raises {nodes : List Node}
    (failed : (renderNodes context { settings with undefined := .lenient } nodes).outcome = .error error) :
    Raises context (nodes.flatMap Node.arguments) error := by
  induction nodes with
  | nil => cases failed
  | cons node nodes ih =>
    rw [renderNodes, Evaluation.outcome_bind] at failed
    rcases Outcome.bind_eq_error.mp failed with failed | ⟨first, -, failed⟩
    · cases node with
      | text => cases failed
      | load => cases failed
      | «variable» e span =>
        rw [Node.render, Expression.render_outcome] at failed
        cases shown : (e.shown context { settings with undefined := .lenient }).outcome with
        | ok value =>
          rw [shown] at failed
          cases failed
        | error other =>
          rw [shown] at failed
          cases failed
          exact (Expression.shown_lenient_raises shown).mono (List.subset_append_left _ _)
    · rw [Evaluation.outcome_bind] at failed
      rcases Outcome.bind_eq_error.mp failed with failed | ⟨others, -, done⟩
      · exact (ih failed).mono (List.subset_append_right _ _)
      · cases done

end

theorem layOut_ordered (offset : Nat) (names : List String) : ∀ segment ∈ Path.layOut offset names,
    offset ≤ segment.span.start ∧ segment.span.start ≤ segment.span.stop := by
  induction names generalizing offset with
  | nil => exact nofun
  | cons name names ih =>
    refine List.forall_mem_cons.mpr ⟨⟨Nat.le_refl _, Nat.le_add_right _ _⟩, fun segment member => ?_⟩
    obtain ⟨behind, ordered⟩ := ih _ segment member
    exact ⟨by omega, ordered⟩

theorem Path.segment_within {text : List Char} {position : Nat} {segment : Segment}
    (member : segment ∈ (ofText text position).segments) :
    segment.span.Within (ofText text position).span ∧ segment.span.start ≤ segment.span.stop := by
  obtain ⟨begins, ordered⟩ := layOut_ordered position _ segment member
  obtain ⟨before, after, split⟩ := List.append_of_mem member
  exact ⟨⟨begins, segment_stop_le split⟩, ordered⟩

theorem Path.Fails.key_mem {path : Path} {context : Context} {key object : String} {keySpan : Span}
    {objectSpan : Option Span} (fails : path.Fails context (.missing key object keySpan objectSpan))
    (named : path.segments ≠ []) : ∃ segment ∈ path.segments, keySpan = segment.span := by
  cases fails with
  | nameless none => exact absurd none named
  | @unbound first _ split _ => exact ⟨first, by rw [split]; exact List.mem_cons_self, rfl⟩
  | @absent before after last segment _ split _ _ => exact ⟨segment, by rw [split]; simp, rfl⟩

/-- The name that is told as missing is one of the operand that does not resolve. -/
theorem parse_missing_within {catalog : Catalog} {builtins : List String} {source : String} {template : Template}
    (done : parse catalog builtins source = .ok template) {operand : Operand} (member : operand ∈ template.operands)
    {context : Context} {key object : String} {keySpan : Span} {objectSpan : Option Span}
    (failed : (operand.resolve context).outcome = .error (.missing key object keySpan objectSpan)) :
    keySpan.Within operand.span ∧ keySpan.start ≤ keySpan.stop := by
  cases operand with
  | literal => cases failed
  | path path =>
    obtain ⟨text, position, readAt, -⟩ := parse_operand done member
    obtain ⟨rfl, -⟩ := readAt.path
    have fails := Path.resolve_eq_error_iff.mp failed
    obtain ⟨segment, among, rfl⟩ := fails.key_mem (Path.ofText_segments_ne_nil text position)
    exact Path.segment_within among

section
variable {catalog : Catalog} {builtins : List String} {source : String} {template : Template} {context : Context}
  {key object : String} {keySpan : Span} {objectSpan : Option Span}

/-- A name that is missing in some operands lies in one of them. -/
theorem Misses.within {operands : List Operand} (done : parse catalog builtins source = .ok template)
    (among : operands ⊆ template.operands)
    (misses : Misses context operands (.missing key object keySpan objectSpan)) :
    ∃ operand ∈ operands, keySpan.Within operand.span ∧ keySpan.start ≤ keySpan.stop := by
  obtain ⟨⟨operand, member, failed⟩, -⟩ := misses
  exact ⟨operand, member, parse_missing_within done (among member) failed⟩

end

end Template

/-- Strict and lenient rendering of a template. Where the strict one gives a text, or fails as the host does or at a
name in an argument, the lenient one goes just the same way; and a name that is missing in a lenient render is one in
an argument and in no base. -/
theorem Engine.render_lenient (settings : Settings) (catalog : Catalog) {source : String} {template : Template}
    (read : (Engine.mk settings catalog).parse source = .ok template) (context : Context) :
    let strict := (Engine.mk { settings with undefined := .strict } catalog).render template context
    let lenient := (Engine.mk { settings with undefined := .lenient } catalog).render template context
    (∀ text, strict.outcome = .ok text → lenient = strict) ∧
    (∀ error, strict.outcome = .error (.host error) → lenient = strict) ∧
    (∀ key object keySpan objectSpan, strict.outcome = .error (.missing key object keySpan objectSpan) →
      (∃ argument ∈ template.arguments, keySpan.Within argument.span) → lenient = strict) ∧
    ∀ key object keySpan objectSpan, lenient.outcome = .error (.missing key object keySpan objectSpan) →
      (∃ argument ∈ template.arguments, keySpan.Within argument.span) ∧
        ∀ base ∈ template.bases, ¬keySpan.Within base.span := by
  intro strict lenient
  have either := Template.renderNodes_modes template.nodes context settings
  refine ⟨fun text done => ?_, fun error failed => ?_, fun key object keySpan objectSpan failed inArgument => ?_,
    fun key object keySpan objectSpan failed => ?_⟩
  · refine either.resolve_right ?_
    rintro ⟨error, -, failed⟩
    cases failed.symm.trans done
  · refine either.resolve_right ?_
    rintro ⟨other, ⟨-, key, object, keySpan, objectSpan, rfl⟩, also⟩
    cases also.symm.trans failed
  · refine either.resolve_right ?_
    rintro ⟨error, misses, also⟩
    cases also.symm.trans failed
    obtain ⟨base, isBase, inBase, ordered⟩ := misses.within read (Template.bases_subset template)
    obtain ⟨argument, isArgument, inArgument⟩ := inArgument
    exact inBase.not_apart inArgument ordered (Template.parse_bases_apart read base isBase argument isArgument)
  · have misses := (Template.renderNodes_lenient_raises failed).misses
    obtain ⟨argument, isArgument, inArgument, ordered⟩ := misses.within read (Template.arguments_subset template)
    refine ⟨⟨argument, isArgument, inArgument⟩, fun base isBase inBase => ?_⟩
    exact inBase.not_apart inArgument ordered (Template.parse_bases_apart read base isBase argument isArgument)

/-- A base that is missing hides the argument behind it in a strict render only; with the base bound, both fail at
the argument. -/
theorem Engine.render_lenient_argument :
    let settings : Settings := { builtins := ["custom_filters"] }
    let strict : Engine := ⟨{ settings with undefined := .strict }, Fixture.libraries.catalog⟩
    let lenient : Engine := ⟨{ settings with undefined := .lenient }, Fixture.libraries.catalog⟩
    let source := "\x7b\x7b a \x7d\x7d\x7b\x7b 'x'|cut:b \x7d\x7d"
    let bound : Context := Context.empty.set "a" .none
    ∃ template, (Engine.mk settings Fixture.libraries.catalog).parse source = .ok template ∧
      (strict.render template .empty).outcome = .error (.missing "a" Context.empty.repr ⟨3, 4⟩ none) ∧
      (lenient.render template .empty).outcome = .error (.missing "b" Context.empty.repr ⟨18, 19⟩ none) ∧
      (∃ argument ∈ template.arguments, Span.Within ⟨18, 19⟩ argument.span) ∧
      (strict.render template bound).outcome = .error (.missing "b" bound.repr ⟨18, 19⟩ none) ∧
      lenient.render template bound = strict.render template bound := by
  intro settings strict lenient source bound
  have done : ((Engine.mk settings Fixture.libraries.catalog).parse source).toOption.map (fun template =>
      ((strict.render template .empty).outcome, (lenient.render template .empty).outcome,
        (strict.render template bound).outcome)) =
      some (.error (.missing "a" Context.empty.repr ⟨3, 4⟩ none), .error (.missing "b" Context.empty.repr ⟨18, 19⟩ none),
        .error (.missing "b" bound.repr ⟨18, 19⟩ none)) := by decide +kernel
  obtain ⟨template, parsed, outcomes⟩ := Option.map_eq_some_iff.mp done
  obtain ⟨strictEmpty, lenientEmpty, strictBound⟩ : _ ∧ _ ∧ _ := by simpa only [Prod.mk.injEq] using outcomes
  have read := Outcome.of_toOption parsed
  have inArgument := ((Engine.render_lenient settings _ read .empty).2.2.2 _ _ _ _ lenientEmpty).1
  exact ⟨template, read, strictEmpty, lenientEmpty, inArgument, strictBound,
    (Engine.render_lenient settings _ read bound).2.2.1 _ _ _ _ strictBound inArgument⟩

end Stencil
