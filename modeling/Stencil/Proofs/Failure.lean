import Stencil.Proofs.Operands
import Stencil.Proofs.Outcome
import Stencil.Rendering

/-! Where the error of a render comes from: an operand that cannot be resolved, or a filter of the host. -/

set_option autoImplicit false

namespace Stencil.Template

/-- An error with which one of some operands fails to resolve, or which a filter raises. -/
def Raises (context : Context) (operands : List Operand) (error : RenderError) : Prop :=
  (∃ operand ∈ operands, (operand.resolve context).outcome = .error error) ∨
    ∃ failure : HostFailure, error = failure.toRenderError

section
variable {context : Context} {settings : Settings} {error : RenderError}

theorem Raises.mono {some_ all : List Operand} (raises : Raises context some_ error) (among : some_ ⊆ all) :
    Raises context all error :=
  raises.imp_left fun ⟨operand, member, failed⟩ => ⟨operand, among member, failed⟩

theorem FilterUse.run_raises {use : FilterUse} {value : Value}
    (failed : (use.run context value).outcome = .error error) :
    Raises context use.argument.toList error := by
  rw [run, Evaluation.outcome_bind, Evaluation.outcome_mapM] at failed
  rcases Outcome.bind_eq_error.mp failed with failed | ⟨argument, -, failed⟩
  · obtain ⟨operand, given, failed⟩ := Outcome.mapM_eq_error.mp failed
    exact Or.inl ⟨operand, Option.mem_toList.mpr given, failed⟩
  · rw [Evaluation.outcome_bind] at failed
    rcases Outcome.bind_eq_error.mp failed with failed | ⟨output, -, done⟩
    · rw [Evaluation.ofHost] at failed
      cases applied : use.filter.apply value argument with
      | ok output =>
        rw [applied] at failed
        cases failed
      | error failure =>
        rw [applied] at failed
        cases failed
        exact Or.inr ⟨failure, rfl⟩
    · cases done

theorem applyFilters_raises {value : Value} {filters : List FilterUse}
    (failed : (applyFilters context value filters).outcome = .error error) :
    Raises context (filters.filterMap (·.argument)) error := by
  induction filters generalizing value with
  | nil => cases failed
  | cons use filters ih =>
    rw [applyFilters, List.foldlM_cons, Evaluation.outcome_bind] at failed
    rw [arguments_cons]
    rcases Outcome.bind_eq_error.mp failed with failed | ⟨next, -, failed⟩
    · exact (FilterUse.run_raises failed).mono (List.subset_append_left _ _)
    · exact (ih failed).mono (List.subset_append_right _ _)

/-- A missing name is no failure there, so what is left is an error of the same kind as the host raises. -/
theorem orMissing_error {α : Type} {x : Evaluation α} (failed : x.orMissing.outcome = .error error) :
    x.outcome = .error error := by
  cases given : x.outcome with
  | ok a =>
    rw [Evaluation.orMissing, given] at failed
    cases failed
  | error other =>
    rw [Evaluation.orMissing, given] at failed
    cases other with
    | missing => cases failed
    | host => cases failed; rfl
    | exhausted => cases failed; rfl

theorem Expression.render_raises {e : Expression} (failed : (e.render context settings).outcome = .error error) :
    Raises context e.operands error := by
  have base (failed : (e.base.resolve context).outcome = .error error) : Raises context e.operands error :=
    Or.inl ⟨e.base, List.mem_cons_self, failed⟩
  have filtered {value : Value} (failed : (do
      let output ← applyFilters context value e.filters
      return output.render settings.autoescape : Evaluation String).outcome = .error error) :
      Raises context e.operands error := by
    rw [Evaluation.outcome_bind] at failed
    rcases Outcome.bind_eq_error.mp failed with failed | ⟨output, -, done⟩
    · exact (applyFilters_raises failed).mono (List.subset_cons_self _ _)
    · cases done
  unfold render at failed
  simp only at failed
  split at failed
  next path same _ =>
    rw [Evaluation.outcome_bind] at failed
    rcases Outcome.bind_eq_error.mp failed with failed | ⟨found, -, failed⟩
    · exact base (by rw [same]; exact orMissing_error failed)
    · cases found with
      | some value => exact filtered failed
      | none =>
        by_cases empty : settings.stringIfInvalid.isEmpty
        · rw [if_pos empty] at failed
          exact filtered failed
        · rw [if_neg empty] at failed
          cases failed
  next =>
    rw [Evaluation.outcome_bind] at failed
    rcases Outcome.bind_eq_error.mp failed with failed | ⟨value, -, failed⟩
    · exact base failed
    · exact filtered failed

theorem render_raises {template : Template} (failed : (template.render context settings).outcome = .error error) :
    Raises context template.operands error := by
  rw [render] at failed
  rw [operands]
  generalize template.nodes = nodes at failed ⊢
  induction nodes with
  | nil => cases failed
  | cons node nodes ih =>
    rw [renderNodes, Evaluation.outcome_bind] at failed
    rcases Outcome.bind_eq_error.mp failed with failed | ⟨first, -, failed⟩
    · cases node with
      | text => cases failed
      | load => cases failed
      | «variable» e span => exact (Expression.render_raises failed).mono (List.subset_append_left _ _)
    · rw [Evaluation.outcome_bind] at failed
      rcases Outcome.bind_eq_error.mp failed with failed | ⟨others, -, done⟩
      · exact (ih failed).mono (List.subset_append_right _ _)
      · cases done

/-- A render that finds a name missing fails on a path of the template that does not resolve. -/
theorem render_missing {template : Template} {key object : String} {keySpan : Span} {objectSpan : Option Span}
    (failed : (template.render context settings).outcome = .error (.missing key object keySpan objectSpan)) :
    ∃ path, .path path ∈ template.operands ∧
      (path.resolve context).outcome = .error (.missing key object keySpan objectSpan) := by
  rcases render_raises failed with ⟨operand, member, failed⟩ | ⟨failure, same⟩
  · cases operand with
    | literal => cases failed
    | path path => exact ⟨path, member, failed⟩
  · cases failure <;> cases same

end

end Stencil.Template
