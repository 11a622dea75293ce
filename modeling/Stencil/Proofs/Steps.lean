import Stencil.Proofs.Accessors
import Stencil.Proofs.Escaping

/-! Rendering as one evaluation from left to right: the steps of a template one after the other, up to the first that
fails. -/

set_option autoImplicit false

namespace Stencil

namespace Template

/-- What a render does one after the other: it evaluates the base of an expression or the argument of a filter, or
applies a filter. -/
inductive Step where
  | base (operand : Operand)
  | argument (operand : Operand)
  | filter (use : FilterUse)

/-- What the steps of an expression have come to: a value and the argument for the next filter, or a replacement, with
which the expression has ended. -/
inductive Stage where
  | reached (value : Value) (argument : Option Value)
  | replaced (text : String)

/-- The stage before the first step. -/
def Stage.start : Stage := .reached .none none

/-- The value that is shown if there are no more steps. -/
def Stage.value : Stage → Value
  | .reached value _ => value
  | .replaced text => .text text

def FilterUse.steps (use : FilterUse) : List Step := use.argument.toList.map .argument ++ [.filter use]

def Expression.steps (e : Expression) : List Step := .base e.base :: e.filters.flatMap FilterUse.steps

def Node.steps : Node → List Step
  | .variable e _ => e.steps
  | _ => []

/-- The steps of a template, in the order in which they stand. -/
def steps (template : Template) : List Step := template.nodes.flatMap Node.steps

/-- What a base comes to. One that is missing is no failure if undefined names are allowed. -/
def Operand.begin (operand : Operand) (context : Context) (settings : Settings) : Evaluation Stage :=
  match operand, settings.undefined with
  | .path p, .lenient => do
    let found ← (p.resolve context).orMissing
    return match found with
      | some value => .reached value none
      | none =>
        if settings.stringIfInvalid.isEmpty then .reached (.text "") none
        else .replaced (settings.replacement p.text)
  | operand, _ => return .reached (← operand.resolve context) none

/-- Does a step; at a replacement, steps do nothing up to the next base. -/
def perform (context : Context) (settings : Settings) : Stage → Step → Evaluation Stage
  | _, .base operand => operand.begin context settings
  | .reached value _, .argument operand => return .reached value (some (← operand.resolve context))
  | .reached value argument, .filter use => do
    let output ← Evaluation.ofHost (use.filter.apply value argument)
    return .reached (if use.filter.keepsSafety && value.isSafe then output.markSafe else output) none
  | .replaced text, _ => return .replaced text

/-- The operand that a step evaluates. -/
def evaluates : Stage → Step → List Operand
  | _, .base operand => [operand]
  | .reached _ _, .argument operand => [operand]
  | _, _ => []

/-- Steps that all succeed, one from the stage of the other, with the operands that they evaluate. -/
inductive Passes (context : Context) (settings : Settings) : Stage → List Step → List Operand → Stage → Prop
  | done {stage : Stage} : Passes context settings stage [] [] stage
  | step {stage next last : Stage} {step : Step} {steps : List Step} {operands : List Operand} :
      (perform context settings stage step).outcome = .ok next → Passes context settings next steps operands last →
      Passes context settings stage (step :: steps) (evaluates stage step ++ operands) last

/-- The first of some steps that fails: all before it succeed. The operands are those evaluated before it and by it. -/
inductive FirstFailure (context : Context) (settings : Settings) (stage : Stage) (steps : List Step) :
    List Operand → RenderError → Prop
  | intro {before after : List Step} {step : Step} {operands : List Operand} {reached : Stage} {error : RenderError} :
      steps = before ++ step :: after → Passes context settings stage before operands reached →
      (perform context settings reached step).outcome = .error error →
      FirstFailure context settings stage steps (operands ++ evaluates reached step) error

/-- The text of a token in the output: plain text is taken over, a variable gives the value that its steps come to, and
comments and load tags give nothing. -/
inductive Token.Gives (source : String) (nodes : List Node) (context : Context) (settings : Settings) :
    Token → String → Prop
  | text {content piece : String} {span : Span} : span.slice? source = some piece →
      Gives source nodes context settings (.text content span) piece
  | comment {content : String} {span contentSpan : Span} :
      Gives source nodes context settings (.tag .comment content span contentSpan) ""
  | load {content : String} {span contentSpan : Span} :
      Gives source nodes context settings (.tag .block content span contentSpan) ""
  | variable {content : String} {span contentSpan : Span} {e : Expression} {operands : List Operand} {last : Stage} :
      .variable e span ∈ nodes → e.token = content → Passes context settings .start e.steps operands last →
      Gives source nodes context settings (.tag .variable content span contentSpan)
        (last.value.render settings.autoescape)

/-- Every article is asked for its summary once by each of the operands that look it up, and by no others. -/
def CountsSummaries (context : Context) (operands : List Operand) (calls : List Call) : Prop :=
  ∀ identity, OfArticle context.Leads identity →
    calls.count ⟨identity, "summary"⟩ = operands.countP (·.LooksUp context identity "summary")

section
variable {context : Context} {settings : Settings}

theorem FilterUse.steps_foldlM (use : FilterUse) (value : Value) :
    use.steps.foldlM (perform context settings) (.reached value none) =
      (Stage.reached · none) <$> use.run context value := by
  rw [steps, run]
  cases use.argument with
  | none => simp [perform, -Evaluation.pure_eq]
  | some operand => simp [perform, -Evaluation.pure_eq]

theorem filters_foldlM (value : Value) (filters : List FilterUse) :
    (filters.flatMap FilterUse.steps).foldlM (perform context settings) (.reached value none) =
      (Stage.reached · none) <$> applyFilters context value filters := by
  rw [applyFilters]
  induction filters generalizing value with
  | nil => rfl
  | cons use filters ih =>
    rw [List.flatMap_cons, List.foldlM_append, use.steps_foldlM, List.foldlM_cons]
    simp [ih, -Evaluation.pure_eq]

theorem replaced_foldlM (text : String) (filters : List FilterUse) :
    (filters.flatMap FilterUse.steps).foldlM (perform context settings) (.replaced text) = pure (.replaced text) := by
  induction filters with
  | nil => rfl
  | cons use filters ih =>
    have none : use.steps.foldlM (perform context settings) (.replaced text) = pure (.replaced text) := by
      rw [FilterUse.steps]
      cases use.argument <;> simp [perform, -Evaluation.pure_eq]
    rw [List.flatMap_cons, List.foldlM_append, none, pure_bind, ih]

/-- The value that an expression shows is the one that its steps come to. -/
theorem Expression.steps_foldlM (e : Expression) (stage : Stage) :
    Stage.value <$> e.steps.foldlM (perform context settings) stage = e.shown context settings := by
  have filtered (value : Value) : Stage.value <$>
      (e.filters.flatMap FilterUse.steps).foldlM (perform context settings) (.reached value none) =
        applyFilters context value e.filters := by
    rw [filters_foldlM, ← comp_map]
    exact id_map _
  rw [steps, List.foldlM_cons, perform]
  unfold Operand.begin shown
  cases e.base with
  | literal value span => simp [filtered, -Evaluation.pure_eq]
  | path path =>
    cases settings.undefined with
    | strict => simp [filtered, -Evaluation.pure_eq]
    | lenient =>
      simp only [bind_assoc, map_bind, pure_bind]
      refine bind_congr fun found => ?_
      cases found with
      | some value => simp [filtered, -Evaluation.pure_eq]
      | none =>
        -- A replacement is shown as it is, while empty text goes through the filters.
        by_cases empty : settings.stringIfInvalid.isEmpty
        · simp [filtered, empty, -Evaluation.pure_eq]
        · simp [replaced_foldlM, empty, Stage.value, -Evaluation.pure_eq]

theorem Expression.render_steps (e : Expression) (stage : Stage) : e.render context settings =
    (·.value.render settings.autoescape) <$> e.steps.foldlM (perform context settings) stage := by
  rw [render_eq, ← e.steps_foldlM stage]
  simp [-Evaluation.pure_eq]

/-- But for its text, a render does what the steps of its nodes do. -/
theorem renderNodes_steps (context : Context) (settings : Settings) (nodes : List Node) (stage : Stage) :
    (fun _ => ()) <$> renderNodes context settings nodes =
      (fun _ => ()) <$> (nodes.flatMap Node.steps).foldlM (perform context settings) stage := by
  -- The stage that a node leaves is of no matter to the next, whose first step is a base.
  induction nodes generalizing stage with
  | nil => rfl
  | cons node nodes ih =>
    have rest (first : String) : (fun _ => ()) <$> (do return first ++ (← renderNodes context settings nodes)) =
        (fun _ => ()) <$> renderNodes context settings nodes := by
      simp [-Evaluation.pure_eq]
    rw [renderNodes, List.flatMap_cons, List.foldlM_append, map_bind, map_bind]
    simp only [rest]
    cases node with
    | text content => exact ih stage
    | load load => exact ih stage
    | «variable» e span =>
      rw [Node.render, e.render_steps stage, bind_map_left]
      exact bind_congr ih

theorem perform_calls (stage : Stage) (step : Step) : (perform context settings stage step).calls =
    (evaluates stage step).flatMap fun operand => (operand.resolve context).calls := by
  have finish {α β : Type} (x : Evaluation α) (f : α → β) : (do return f (← x) : Evaluation β).calls = x.calls := by
    rw [← map_eq_pure_bind, Evaluation.map_calls]
  cases step with
  | base operand =>
    rw [perform, evaluates, List.flatMap_singleton]
    unfold Operand.begin
    split
    next path _ _ => rw [finish, Evaluation.orMissing_calls, Operand.resolve]
    next => exact finish _ _
  | argument operand =>
    cases stage with
    | reached value argument => rw [perform, finish, evaluates, List.flatMap_singleton]
    | replaced text => rfl
  | filter use =>
    cases stage with
    | reached value argument => exact finish _ _
    | replaced text => rfl

/-- Steps that succeed one after the other. -/
theorem Passes.foldlM {stage last : Stage} {steps : List Step} {operands : List Operand}
    (passes : Passes context settings stage steps operands last) : steps.foldlM (perform context settings) stage =
      ⟨operands.flatMap fun operand => (operand.resolve context).calls, .ok last⟩ := by
  induction passes with
  | done => rfl
  | step done _ ih =>
    rw [List.foldlM_cons, Evaluation.bind_ok done, ih, perform_calls, List.flatMap_append]

theorem FirstFailure.foldlM {stage : Stage} {steps : List Step} {operands : List Operand} {error : RenderError}
    (failure : FirstFailure context settings stage steps operands error) : steps.foldlM (perform context settings) stage =
      ⟨operands.flatMap fun operand => (operand.resolve context).calls, .error error⟩ := by
  obtain ⟨rfl, passes, failed⟩ := failure
  rw [List.foldlM_append, passes.foldlM, Evaluation.bind_ok rfl, List.foldlM_cons, Evaluation.bind_error failed,
    perform_calls, List.flatMap_append]

/-- Some steps all succeed, or one of them is the first that fails. -/
theorem passes_or_fails (context : Context) (settings : Settings) (stage : Stage) (steps : List Step) :
    (∃ operands last, Passes context settings stage steps operands last) ∨
      ∃ operands error, FirstFailure context settings stage steps operands error := by
  induction steps generalizing stage with
  | nil => exact Or.inl ⟨[], stage, .done⟩
  | cons step steps ih =>
    cases here : (perform context settings stage step).outcome with
    | error error => exact Or.inr ⟨_, error, .intro (List.nil_append _).symm .done here⟩
    | ok next =>
      rcases ih next with ⟨operands, last, passes⟩ | ⟨operands, error, ⟨rfl, passes, failed⟩⟩
      · exact Or.inl ⟨_, last, .step here passes⟩
      · exact Or.inr ⟨_, error, .intro (List.cons_append ..).symm (.step here passes) failed⟩

theorem Expression.passes {e : Expression} {text : String} (done : (e.render context settings).outcome = .ok text) :
    ∃ operands last, Passes context settings .start e.steps operands last ∧
      text = last.value.render settings.autoescape := by
  rw [e.render_steps .start, Evaluation.map_outcome] at done
  rcases passes_or_fails context settings .start e.steps with ⟨operands, last, passes⟩ | ⟨operands, error, failure⟩
  · rw [passes.foldlM] at done
    cases done
    exact ⟨operands, last, passes, rfl⟩
  · rw [failure.foldlM] at done
    cases done

theorem renderNodes_cons_eq_ok {node : Node} {nodes : List Node} {text : String}
    (done : (renderNodes context settings (node :: nodes)).outcome = .ok text) :
    ∃ first others, (node.render context settings).outcome = .ok first ∧
      (renderNodes context settings nodes).outcome = .ok others ∧ text = first ++ others := by
  rw [renderNodes, Evaluation.outcome_bind] at done
  obtain ⟨first, here, done⟩ := Outcome.bind_eq_ok.mp done
  rw [Evaluation.outcome_bind] at done
  obtain ⟨others, rest, same⟩ := Outcome.bind_eq_ok.mp done
  cases same
  exact ⟨first, others, here, rest, rfl⟩

/-- The output is joined from the pieces of the tokens. -/
theorem Reads.gives {catalog : Catalog} {events : List Binding} {source text : String} {tokens : List Token}
    {nodes all : List Node} (reads : Reads catalog events tokens nodes)
    (faithful : ∀ token ∈ tokens, token.Faithful source) (among : nodes ⊆ all)
    (done : (renderNodes context settings nodes).outcome = .ok text) :
    ∃ pieces, List.Forall₂ (Token.Gives source all context settings) tokens pieces ∧ text = String.join pieces := by
  -- All tokens but comments have a node, so nodes are taken off the list in the other cases only.
  induction reads generalizing text with
  | nil =>
    cases done
    exact ⟨[], .nil, rfl⟩
  | cons readsAs _ ih =>
    obtain ⟨here, later⟩ := List.forall_mem_cons.mp faithful
    cases readsAs with
    | comment =>
      obtain ⟨pieces, gives, joined⟩ := ih later among done
      exact ⟨"" :: pieces, .cons .comment gives, by rw [String.join_cons, joined, String.empty_append]⟩
    | text =>
      obtain ⟨first, others, shown, rest, rfl⟩ := renderNodes_cons_eq_ok done
      obtain ⟨pieces, gives, joined⟩ := ih later (List.subset_of_cons_subset among) rest
      cases shown
      exact ⟨_ :: pieces, .cons (.text here) gives, by rw [String.join_cons, joined]⟩
    | load =>
      obtain ⟨first, others, shown, rest, rfl⟩ := renderNodes_cons_eq_ok done
      obtain ⟨pieces, gives, joined⟩ := ih later (List.subset_of_cons_subset among) rest
      cases shown
      exact ⟨_ :: pieces, .cons .load gives, by rw [String.join_cons, joined]⟩
    | «variable» bound =>
      obtain ⟨first, others, shown, rest, rfl⟩ := renderNodes_cons_eq_ok done
      obtain ⟨pieces, gives, joined⟩ := ih later (List.subset_of_cons_subset among) rest
      obtain ⟨operands, last, passes, rfl⟩ := Expression.passes shown
      exact ⟨_ :: pieces, .cons (.variable (among List.mem_cons_self) bound.token passes) gives,
        by rw [String.join_cons, joined]⟩

theorem render_alike (template : Template) (context : Context) (settings : Settings) :
    let run := template.steps.foldlM (perform context settings) .start
    (template.render context settings).calls = run.calls ∧
      (template.render context settings).outcome.map (fun _ => ()) = run.outcome.map fun _ => () := by
  have same := renderNodes_steps context settings template.nodes .start
  have calls := congrArg Evaluation.calls same
  have outcome := congrArg Evaluation.outcome same
  rw [Evaluation.map_calls, Evaluation.map_calls] at calls
  rw [Evaluation.map_outcome, Evaluation.map_outcome] at outcome
  exact ⟨calls, outcome⟩

theorem render_of_failure {template : Template} {operands : List Operand} {error : RenderError}
    (failure : FirstFailure context settings .start template.steps operands error) : template.render context settings =
      ⟨operands.flatMap fun operand => (operand.resolve context).calls, .error error⟩ := by
  obtain ⟨calls, outcome⟩ := template.render_alike context settings
  rw [failure.foldlM] at calls outcome
  refine Evaluation.ext calls ?_
  -- The two runs differ in the text only, and what fails gives none.
  cases given : (template.render context settings).outcome <;> rw [given] at outcome <;> cases outcome
  rfl

theorem render_of_passes {template : Template} {operands : List Operand} {last : Stage}
    (passes : Passes context settings .start template.steps operands last) :
    (template.render context settings).calls = (operands.flatMap fun operand => (operand.resolve context).calls) ∧
      ∃ text, (template.render context settings).outcome = .ok text := by
  obtain ⟨calls, outcome⟩ := template.render_alike context settings
  rw [passes.foldlM] at calls outcome
  refine ⟨calls, ?_⟩
  cases given : (template.render context settings).outcome with
  | ok text => exact ⟨text, rfl⟩
  | error error =>
    rw [given] at outcome
    cases outcome

theorem countsSummaries (context : Context) (operands : List Operand) : CountsSummaries context operands
    (operands.flatMap fun operand => (operand.resolve context).calls) := by
  intro identity article
  induction operands with
  | nil => rfl
  | cons operand operands ih =>
    rw [List.flatMap_cons, List.count_append, operand.count_resolve article, ih, List.countP_cons, Nat.add_comm]
    simp only [decide_eq_true_eq]

end

end Template

/-- A render does the steps of its template in the order in which they stand. If one fails, the first that does gives
the error; else the output is joined from the pieces of the source. Either way, articles were asked for their summaries
by the operands that were evaluated, those of a step that fails included. -/
theorem Engine.render_stepwise (engine : Engine) {source : String} {template : Template}
    (read : engine.parse source = .ok template) (context : Context) :
    let render := engine.render template context
    ((∃ operands last, Template.Passes context engine.settings .start template.steps operands last) ∨
      ∃ operands error, Template.FirstFailure context engine.settings .start template.steps operands error) ∧
    (∀ operands error, Template.FirstFailure context engine.settings .start template.steps operands error →
      render.outcome = .error error ∧ Template.CountsSummaries context operands render.calls) ∧
    ∀ operands last, Template.Passes context engine.settings .start template.steps operands last →
      (∃ tokens pieces, Template.Token.scan source = .ok tokens ∧
        List.Forall₂ (Template.Token.Gives source template.nodes context engine.settings) tokens pieces ∧
        render.outcome = .ok (String.join pieces)) ∧
      Template.CountsSummaries context operands render.calls := by
  intro render
  refine ⟨Template.passes_or_fails context engine.settings .start template.steps, fun operands error failure => ?_,
    fun operands last passes => ?_⟩
  · have ended : render = _ := Template.render_of_failure failure
    rw [ended]
    exact ⟨rfl, Template.countsSummaries context operands⟩
  · obtain ⟨calls, text, done⟩ := Template.render_of_passes passes
    have calls : render.calls = _ := calls
    rw [calls]
    refine ⟨?_, Template.countsSummaries context operands⟩
    obtain ⟨tokens, scanned, inScope⟩ := Template.parse_scoped read
    have faithful := Template.Token.faithful_of_scan scanned
    obtain ⟨pieces, gives, rfl⟩ := inScope.reads.gives faithful (List.Subset.refl _) done
    exact ⟨tokens, pieces, scanned, gives, done⟩

/-- The argument that fails has asked for the summary before; the variable behind it is not reached. -/
theorem Engine.render_stepwise_article :
    let engine : Engine := ⟨{ builtins := ["custom_filters"] }, Fixture.libraries.catalog⟩
    let source := "\x7b\x7b a.summary \x7d\x7d\x7b\x7b 'x'|cut:a.summary.b \x7d\x7d\x7b\x7b a.summary \x7d\x7d"
    let context := Context.empty.set "a" (.object (Fixture.article 7 "A" []))
    let error := RenderError.missing "b" "'About A'" ⟨36, 37⟩ (some ⟨26, 35⟩)
    ∃ template operands, engine.parse source = .ok template ∧
      Template.FirstFailure context engine.settings .start template.steps operands error ∧
      (engine.render template context).outcome = .error error ∧
      (engine.render template context).calls.count ⟨7, "summary"⟩ = 2 ∧
      operands.countP (·.LooksUp context 7 "summary") = 2 := by
  intro engine source context error
  have done : (engine.parse source).toOption.map (fun template =>
      ((engine.render template context).outcome, (engine.render template context).calls)) =
        some (.error error, [⟨7, "summary"⟩, ⟨7, "summary"⟩]) := by decide +kernel
  obtain ⟨template, parsed, rendered⟩ := Option.map_eq_some_iff.mp done
  obtain ⟨failed, calls⟩ : _ ∧ _ := by simpa only [Prod.mk.injEq] using rendered
  have read : engine.parse source = .ok template := Outcome.of_toOption parsed
  have plain : Context.empty.Plain := by
    intro scope member entry among
    rw [List.mem_singleton.mp member] at among
    cases among
  have article : OfArticle context.Leads 7 := Context.Plain.ofArticle (Context.Plain.set plain .article) 7
  obtain ⟨either, failure, success⟩ := Engine.render_stepwise engine read context
  rcases either with ⟨operands, last, passes⟩ | ⟨operands, other, failing⟩
  · obtain ⟨⟨_, _, -, -, given⟩, -⟩ := success operands last passes
    cases given.symm.trans failed
  · obtain ⟨given, counted⟩ := failure operands other failing
    cases given.symm.trans failed
    have twice : (engine.render template context).calls.count ⟨7, "summary"⟩ = 2 := by rw [calls]; decide
    exact ⟨template, operands, read, failing, failed, twice, (counted 7 article).symm.trans twice⟩

end Stencil
