import Stencil.Engine
import Stencil.Proofs.Marking
import Stencil.Proofs.Outcome
import Stencil.Proofs.Scoping

/-! The same template rendered with escaping and without: where a value is shown that no quoted text stands for,
escaping does all that is left to do, and nothing else depends on it. -/

set_option autoImplicit false

namespace Stencil

namespace Template

/-- A literal text. -/
def Operand.IsString : Operand → Prop
  | .literal value _ => value.asText?.isSome
  | .path _ => False

/-- The value whose text an expression gives. -/
def Expression.shown (e : Expression) (context : Context) (settings : Settings) : Evaluation Value :=
  match e.base, settings.undefined with
  | .path path, .lenient => do
    match ← (path.resolve context).orMissing with
    | some base => applyFilters context base e.filters
    | none =>
      if settings.stringIfInvalid.isEmpty then applyFilters context (.text "") e.filters
      else return .text (settings.replacement path.text)
  | base, _ => do applyFilters context (← base.resolve context) e.filters

/-- What a part of a template gives with escaping and without. -/
structure Piece where
  escaped : String
  raw : String

/-- What a node gives with escaping and without: the same, unless it shows a value. What it shows on another base
than a literal text is escaped. -/
structure Node.Gives (context : Context) (settings : Settings) (node : Node) (piece : Piece) : Prop where
  escaped : (node.render context { settings with autoescape := true }).outcome = .ok piece.escaped
  raw : (node.render context { settings with autoescape := false }).outcome = .ok piece.raw
  plain : (∀ e span, node ≠ .variable e span) → piece.escaped = piece.raw
  shown : ∀ e span, node = .variable e span → ¬e.base.IsString →
    piece.escaped = Text.escape piece.raw ∧ ∀ c ∈ piece.escaped.toList, c ∉ ['<', '>', '"', '\'']

/-- The outcomes of a render with escaping and of one without: the same error, or texts of pieces that nodes give. -/
inductive Agree (context : Context) (settings : Settings) (nodes : List Node) :
    Except RenderError String → Except RenderError String → Prop
  | failed {error : RenderError} : Agree context settings nodes (.error error) (.error error)
  | done {pieces : List Piece} : List.Forall₂ (Node.Gives context settings) nodes pieces →
      Agree context settings nodes (.ok (String.join (pieces.map Piece.escaped)))
        (.ok (String.join (pieces.map Piece.raw)))

section
variable {context : Context} {settings : Settings} {value output : Value}

theorem Expression.render_eq (e : Expression) (context : Context) (settings : Settings) :
    e.render context settings = do return (← e.shown context settings).render settings.autoescape := by
  unfold render shown
  cases base : e.base with
  | literal => exact (bind_assoc _ _ _).symm
  | path path =>
    cases settings.undefined with
    | strict => exact (bind_assoc _ _ _).symm
    | lenient =>
      -- Only here a missing name has a value, and a replacement that is written out passes no filters.
      simp only [bind_assoc]
      refine bind_congr fun found => ?_
      cases found with
      | some value => rfl
      | none =>
        by_cases empty : settings.stringIfInvalid.isEmpty
        · simp only [empty, if_true]
        · simp only [empty]
          rfl

theorem Expression.render_outcome (e : Expression) (context : Context) (settings : Settings) :
    (e.render context settings).outcome =
      (e.shown context settings).outcome.map (·.render settings.autoescape) := by
  rw [render_eq, Evaluation.outcome_bind]
  cases (e.shown context settings).outcome <;> rfl

/-- A filter that does not mark its results gives unmarked text for a value that is not marked. -/
theorem FilterUse.run_isSafe {use : FilterUse} (unmarking : use.filter.Unmarking) (unmarked : value.isSafe = false)
    (done : (use.run context value).outcome = .ok output) : output.isSafe = false := by
  rw [run, Evaluation.outcome_bind] at done
  obtain ⟨argument, -, done⟩ := Outcome.bind_eq_ok.mp done
  rw [Evaluation.outcome_bind] at done
  obtain ⟨result, applied, same⟩ := Outcome.bind_eq_ok.mp done
  rw [unmarked, Bool.and_false] at same
  cases same
  cases given : use.filter.apply value argument with
  | ok result =>
    rw [Evaluation.ofHost, given] at applied
    cases applied
    exact unmarking value argument _ given
  | error failure =>
    rw [Evaluation.ofHost, given] at applied
    cases applied

theorem applyFilters_isSafe {filters : List FilterUse} (unmarking : ∀ use ∈ filters, use.filter.Unmarking)
    (unmarked : value.isSafe = false) (done : (applyFilters context value filters).outcome = .ok output) :
    output.isSafe = false := by
  induction filters generalizing value with
  | nil =>
    cases done
    exact unmarked
  | cons use filters ih =>
    -- A filter takes an unmarked value to an unmarked one, so the next starts like the first.
    obtain ⟨here, rest⟩ := List.forall_mem_cons.mp unmarking
    rw [applyFilters, List.foldlM_cons, Evaluation.outcome_bind] at done
    obtain ⟨next, ran, done⟩ := Outcome.bind_eq_ok.mp done
    exact ih rest (FilterUse.run_isSafe here unmarked ran) done

theorem orMissing_eq_some {α : Type} {x : Evaluation α} {a : α} (found : x.orMissing.outcome = .ok (some a)) :
    x.outcome = .ok a := by
  cases given : x.outcome with
  | ok b =>
    rw [Evaluation.orMissing, given] at found
    cases found
    rfl
  | error error =>
    rw [Evaluation.orMissing, given] at found
    cases error <;> cases found

theorem Operand.resolve_isSafe {operand : Operand} (other : ¬operand.IsString) (plain : context.Plain)
    (done : (operand.resolve context).outcome = .ok value) : value.isSafe = false := by
  cases operand with
  | path path => exact (path.resolve_plain plain done).isSafe
  | literal written span =>
    -- Of the literals only quoted text is marked.
    cases done
    cases value with
    | safeText => exact absurd rfl other
    | _ => rfl

theorem Expression.shown_isSafe {e : Expression} (other : ¬e.base.IsString)
    (unmarking : ∀ use ∈ e.filters, use.filter.Unmarking) (plain : context.Plain)
    (done : (e.shown context settings).outcome = .ok value) : value.isSafe = false := by
  unfold shown at done
  split at done
  next path _ _ =>
    rw [Evaluation.outcome_bind] at done
    obtain ⟨found, resolved, done⟩ := Outcome.bind_eq_ok.mp done
    cases found with
    | some start =>
      have unmarked := (path.resolve_plain plain (orMissing_eq_some resolved)).isSafe
      exact applyFilters_isSafe unmarking unmarked done
    | none =>
      by_cases empty : settings.stringIfInvalid.isEmpty
      · rw [if_pos empty] at done
        exact applyFilters_isSafe unmarking rfl done
      · rw [if_neg empty] at done
        cases done
        rfl
  next =>
    rw [Evaluation.outcome_bind] at done
    obtain ⟨start, resolved, done⟩ := Outcome.bind_eq_ok.mp done
    exact applyFilters_isSafe unmarking (Operand.resolve_isSafe other plain resolved) done

/-- What one node does in both renders. -/
theorem Node.agree (settings : Settings) {node : Node} (plain : context.Plain)
    (unmarking : ∀ e span, node = .variable e span → ∀ use ∈ e.filters, use.filter.Unmarking) :
    (∃ error, (node.render context { settings with autoescape := true }).outcome = .error error ∧
      (node.render context { settings with autoescape := false }).outcome = .error error) ∨
    ∃ piece, node.Gives context settings piece := by
  cases node with
  | text content => exact Or.inr ⟨⟨content, content⟩, rfl, rfl, fun _ => rfl, nofun⟩
  | load => exact Or.inr ⟨⟨"", ""⟩, rfl, rfl, fun _ => rfl, nofun⟩
  | «variable» e span =>
    -- The value that is shown is the same whether it is then escaped or not.
    have both (autoescape : Bool) : (Node.render (.variable e span) context { settings with autoescape }).outcome =
        (e.shown context settings).outcome.map (·.render autoescape) := e.render_outcome context _
    rw [both, both]
    cases shown : (e.shown context settings).outcome with
    | error error => exact Or.inl ⟨error, rfl, rfl⟩
    | ok value =>
      refine Or.inr ⟨⟨value.render true, value.render false⟩, ?_, ?_, fun none => absurd rfl (none e span), ?_⟩
      · rw [both, shown]
        rfl
      · rw [both, shown]
        rfl
      · intro e span same other
        cases same
        have unmarked := Expression.shown_isSafe other (unmarking e span rfl) plain shown
        have escaped : value.render true = Text.escape (value.render false) := by
          simp [Value.render, unmarked]
        exact ⟨escaped, escaped ▸ Text.escape_bare _⟩

theorem renderNodes_agree {nodes : List Node} (plain : context.Plain)
    (unmarking : ∀ e span, .variable e span ∈ nodes → ∀ use ∈ e.filters, use.filter.Unmarking) :
    Agree context settings nodes (renderNodes context { settings with autoescape := true } nodes).outcome
      (renderNodes context { settings with autoescape := false } nodes).outcome := by
  induction nodes with
  | nil => exact .done .nil
  | cons node nodes ih =>
    have others := ih fun e span member => unmarking e span (List.mem_cons_of_mem node member)
    simp only [renderNodes, Evaluation.outcome_bind]
    rcases Node.agree settings plain fun e span same => unmarking e span (same ▸ List.mem_cons_self)
      with ⟨error, escaped, raw⟩ | ⟨piece, gives⟩
    · -- Both renders end at this node.
      rw [escaped, raw]
      exact .failed
    · rw [gives.escaped, gives.raw]
      generalize (renderNodes context { settings with autoescape := true } nodes).outcome = left at others
      generalize (renderNodes context { settings with autoescape := false } nodes).outcome = right at others
      cases others with
      | failed => exact .failed
      | done pieces =>
        have both := Agree.done (.cons gives pieces)
        rwa [List.map_cons, List.map_cons, String.join_cons, String.join_cons] at both

end

/-- The filters of a template mark no text if those of the catalog do not. -/
theorem parse_unmarking {catalog : Catalog} {builtins : List String} {source : String} {template : Template}
    (unmarking : catalog.Unmarking) (done : parse catalog builtins source = .ok template) {e : Expression} {span : Span}
    (member : Node.variable e span ∈ template.nodes) : ∀ use ∈ e.filters, use.filter.Unmarking := by
  intro use among
  obtain ⟨asked, library, found, -, provided⟩ := parse_provided done member use among
  exact unmarking asked library found _ provided

end Template

/-- With escaping, only the text of a template and its literal texts can put markup into the output. Rendered with
escaping and without, a template over the sample filters either fails with the same error on a plain context, or gives
pieces that are the same but for those that show a value: each of these is escaped as a whole, unless its base is a
literal text. -/
theorem Engine.render_escapes (settings : Settings) {source : String} {template : Template}
    (read : (Engine.mk settings Fixture.libraries.catalog).parse source = .ok template) {context : Context}
    (plain : context.Plain) :
    Template.Agree context settings template.nodes
      ((Engine.mk { settings with autoescape := true } Fixture.libraries.catalog).render template context).outcome
      ((Engine.mk { settings with autoescape := false } Fixture.libraries.catalog).render template context).outcome :=
  Template.renderNodes_agree plain fun _ _ member => Template.parse_unmarking Fixture.libraries_unmarking read member

/-- Markup from a document, from an article, from a replacement and from a literal text, which alone stays as it is. -/
theorem Engine.render_escapes_article :
    let settings : Settings :=
      { undefined := .lenient, stringIfInvalid := "<%s>", builtins := ["custom_filters"] }
    let engine : Engine := ⟨settings, Fixture.libraries.catalog⟩
    let source := "<p>\x7b\x7b a.0|multiply:2 \x7d\x7d\x7b\x7b b.title|lower|cut:\"'\" \x7d\x7d" ++
      "\x7b\x7b c|lower \x7d\x7d\x7b\x7b '<i>'|lower \x7d\x7d</p>"
    let article : Value := .object (Fixture.article 7 "'\"B\"'" [])
    ∃ document template, Context.ofJson? "\x7b\"a\": [\"<&>\"]\x7d" = some document ∧
      engine.parse source = .ok template ∧
      (template.render (document.set "b" article) settings).outcome =
        .ok "<p>&lt;&amp;&gt;&lt;&amp;&gt;&quot;b&quot;&lt;c&gt;<i></p>" ∧
      Template.Agree (document.set "b" article) settings template.nodes
        ((Engine.mk { settings with autoescape := true } Fixture.libraries.catalog).render template
          (document.set "b" article)).outcome
        ((Engine.mk { settings with autoescape := false } Fixture.libraries.catalog).render template
          (document.set "b" article)).outcome := by
  intro settings engine source article
  have done : ((Context.ofJson? "\x7b\"a\": [\"<&>\"]\x7d").bind fun document =>
      (engine.parse source).toOption.map fun template =>
        (template.render (document.set "b" article) settings).outcome) =
      some (.ok "<p>&lt;&amp;&gt;&lt;&amp;&gt;&quot;b&quot;&lt;c&gt;<i></p>") := by decide +kernel
  obtain ⟨document, made, done⟩ := Option.bind_eq_some_iff.mp done
  obtain ⟨template, parsed, rendered⟩ := Option.map_eq_some_iff.mp done
  have read : engine.parse source = .ok template := Outcome.of_toOption parsed
  exact ⟨document, template, made, read, rendered,
    Engine.render_escapes settings read ((Context.ofJson?_plain made).set .article)⟩

end Stencil
