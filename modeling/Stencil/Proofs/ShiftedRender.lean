import Stencil.Proofs.Escaping
import Stencil.Proofs.Shift

/-! Rendering what stands further on in a source: the same text, or the same error with its spans shifted along. -/

set_option autoImplicit false

namespace Stencil

/-- The error further on; what the host raises stands nowhere. -/
def RenderError.shift (offset : Nat) : RenderError → RenderError
  | missing key object keySpan objectSpan =>
    .missing key object (keySpan.shift offset) (objectSpan.map (·.shift offset))
  | host error => .host error
  | exhausted => .exhausted

namespace Evaluation

variable {α β : Type} (offset : Nat)

/-- The same evaluation with an error further on. -/
def shift (x : Evaluation α) : Evaluation α := ⟨x.calls, x.outcome.mapError (RenderError.shift offset)⟩

theorem shift_bind (x : Evaluation α) (f : α → Evaluation β) :
    (x >>= f).shift offset = x.shift offset >>= fun a => (f a).shift offset := by
  cases given : x.outcome with
  | ok a =>
    have given' : (x.shift offset).outcome = .ok a := by rw [shift, given]; rfl
    rw [bind_ok given, bind_ok given']
    rfl
  | error error =>
    have given' : (x.shift offset).outcome = .error (error.shift offset) := by rw [shift, given]; rfl
    rw [bind_error given, bind_error given']
    rfl

theorem shift_ofHost (outcome : Except HostFailure α) : (ofHost outcome).shift offset = ofHost outcome := by
  cases outcome with
  | ok => rfl
  | error failure => cases failure <;> rfl

theorem shift_orMissing (x : Evaluation α) : x.orMissing.shift offset = (x.shift offset).orMissing := by
  obtain ⟨calls, outcome⟩ := x
  cases outcome with
  | ok => rfl
  | error error => cases error <;> rfl

end Evaluation

theorem Attribute.shift_evaluate (offset : Nat) (found : Attribute Value) (owner : Value) (name : String) :
    (found.evaluate owner name).shift offset = found.evaluate owner name := by
  cases found with
  | value => rfl
  | accessor outcome => cases outcome <;> rfl

namespace Template

variable (offset : Nat) (context : Context) (settings : Settings)

theorem Path.shift_prefixSpan (path : Path) (index : Nat) :
    (path.shift offset).prefixSpan index = (path.prefixSpan index).shift offset := by
  rw [prefixSpan, prefixSpan, shift, List.getElem?_map]
  cases path.segments[index]? <;> rfl

theorem Path.shift_follow (path : Path) (index : Nat) (current : Value) (rest : List Segment) :
    (path.shift offset).follow index current (rest.map (Segment.shift offset)) =
      (path.follow index current rest).shift offset := by
  induction rest generalizing index current with
  | nil => rfl
  | cons segment rest ih =>
    have name : (segment.shift offset).name = segment.name := rfl
    rw [List.map_cons, follow, follow, name, shift_prefixSpan]
    cases current.attribute? segment.name with
    | none => rfl
    | some found =>
      simp only [Evaluation.shift_bind, Attribute.shift_evaluate, ih]

theorem Path.shift_resolve (path : Path) : (path.shift offset).resolve context = (path.resolve context).shift offset := by
  obtain ⟨segments, span⟩ := path
  cases segments with
  | nil => rfl
  | cons first rest =>
    have name : (first.shift offset).name = first.name := rfl
    rw [resolve, resolve, shift]
    simp only [List.map_cons, name]
    cases context.get? first.name with
    | none => rfl
    | some value => exact shift_follow offset ⟨first :: rest, span⟩ 0 value rest

theorem Operand.shift_resolve (operand : Operand) :
    (operand.shift offset).resolve context = (operand.resolve context).shift offset := by
  cases operand with
  | literal => rfl
  | path path => exact path.shift_resolve offset context

theorem FilterUse.shift_run (use : FilterUse) (value : Value) :
    (use.shift offset).run context value = (use.run context value).shift offset := by
  have argument : (use.argument.map (Operand.shift offset)).mapM (fun operand : Operand => operand.resolve context) =
      (use.argument.mapM fun operand : Operand => operand.resolve context).shift offset := by
    cases use.argument with
    | none => rfl
    | some operand =>
      rw [Option.map_some, Option.mapM_some, Option.mapM_some, Operand.shift_resolve, map_eq_pure_bind,
        map_eq_pure_bind, Evaluation.shift_bind]
      rfl
  rw [run, run, shift, Evaluation.shift_bind, argument]
  refine bind_congr fun given => ?_
  rw [Evaluation.shift_bind, Evaluation.shift_ofHost]
  rfl

theorem shift_applyFilters (value : Value) (filters : List FilterUse) :
    applyFilters context value (filters.map (FilterUse.shift offset)) =
      (applyFilters context value filters).shift offset := by
  rw [applyFilters, applyFilters]
  induction filters generalizing value with
  | nil => rfl
  | cons use filters ih =>
    rw [List.map_cons, List.foldlM_cons, List.foldlM_cons, Evaluation.shift_bind, FilterUse.shift_run]
    exact bind_congr ih

theorem Path.shift_text (path : Path) : (path.shift offset).text = path.text := by
  simp [text, shift, Segment.shift, Function.comp_def]

theorem Expression.shift_shown (e : Expression) :
    (e.shift offset).shown context settings = (e.shown context settings).shift offset := by
  have filtered (base : Evaluation Value) :
      (base.shift offset >>= fun value => applyFilters context value (e.filters.map (FilterUse.shift offset))) =
        (base >>= fun value => applyFilters context value e.filters).shift offset := by
    rw [Evaluation.shift_bind]
    exact bind_congr fun value => shift_applyFilters offset context value e.filters
  unfold shown shift
  cases e.base with
  | literal value span => exact filtered (pure value)
  | path path =>
    have resolved := path.shift_resolve offset context
    cases settings.undefined with
    | strict =>
      rw [← filtered, Operand.resolve, ← resolved]
      rfl
    | lenient =>
      -- The replacement tells names, which do not move.
      simp only [Operand.shift, resolved, ← Evaluation.shift_orMissing, Path.shift_text, shift_applyFilters]
      rw [Evaluation.shift_bind]
      refine bind_congr fun found => ?_
      cases found with
      | some value => rfl
      | none => dsimp only; split <;> rfl

theorem Expression.shift_render (e : Expression) :
    (e.shift offset).render context settings = (e.render context settings).shift offset := by
  rw [render_eq, render_eq, shift_shown, Evaluation.shift_bind]
  rfl

theorem shift_renderNodes (nodes : List Node) : renderNodes context settings (nodes.map (Node.shift offset)) =
    (renderNodes context settings nodes).shift offset := by
  induction nodes with
  | nil => rfl
  | cons node nodes ih =>
    have first : (node.shift offset).render context settings = (node.render context settings).shift offset := by
      cases node with
      | text => rfl
      | load => rfl
      | «variable» e span => exact e.shift_render offset context settings
    rw [List.map_cons, renderNodes, renderNodes, Evaluation.shift_bind, first]
    refine bind_congr fun text => ?_
    rw [Evaluation.shift_bind, ih]
    rfl

end Template

end Stencil
