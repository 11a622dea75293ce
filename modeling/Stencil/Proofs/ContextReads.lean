import Stencil.Fixture.Filters
import Stencil.Proofs.Escaping
import Stencil.Proofs.Operands
import Stencil.Proofs.ScopeStack

/-! What a render reads of its context: the values of the names with which paths of the template start. Only the error
that such a name is not bound tells more of the context. -/

set_option autoImplicit false

namespace Stencil

/-- Both contexts give the same for each of the names. -/
def Context.AgreesOn (left right : Context) (names : List String) : Prop :=
  ∀ name ∈ names, left.get? name = right.get? name

theorem Context.AgreesOn.mono {left right : Context} {some_ all : List String} (agree : left.AgreesOn right all)
    (among : some_ ⊆ all) : left.AgreesOn right some_ := fun name member => agree name (among member)

/-- Evaluations in two contexts that call the same accessors and come to the same, or that fail at the same unbound name,
each with its own context listed. -/
inductive Evaluation.Alike {α : Type} (left right : Context) : Evaluation α → Evaluation α → Prop
  | same {x : Evaluation α} : Alike left right x x
  | unbound {calls : List Call} {key : String} {keySpan : Span} :
      Alike left right ⟨calls, .error (.missing key left.repr keySpan none)⟩
        ⟨calls, .error (.missing key right.repr keySpan none)⟩

namespace Evaluation.Alike

variable {α β : Type} {left right : Context} {x y : Evaluation α}

theorem bind {f g : α → Evaluation β} (first : Alike left right x y) (next : ∀ a, Alike left right (f a) (g a)) :
    Alike left right (x >>= f) (y >>= g) := by
  cases first with
  | same =>
    cases given : x.outcome with
    | error error =>
      rw [bind_error given, bind_error given]
      exact .same
    | ok a =>
      rw [bind_ok given, bind_ok given]
      have later := next a
      generalize f a = fa at later
      generalize g a = ga at later
      cases later with
      | same => exact .same
      | unbound => exact .unbound
  | unbound =>
    rw [bind_error rfl, bind_error rfl]
    exact .unbound

/-- An unbound name is no failure there, so nothing of the context is told. -/
theorem orMissing_eq (alike : Alike left right x y) : x.orMissing = y.orMissing := by
  cases alike <;> rfl

end Evaluation.Alike

namespace Template

open Evaluation (Alike)

/-- The name with which a path starts. -/
def Operand.roots : Operand → List String
  | .literal _ _ => []
  | .path p => p.segments.head?.toList.map (·.name)

/-- The names with which paths of the template start. -/
def roots (template : Template) : List String := template.operands.flatMap Operand.roots

section
variable {left right : Context}

theorem Path.resolve_alike {path : Path} (agree : left.AgreesOn right (Operand.path path).roots) :
    Alike left right (path.resolve left) (path.resolve right) := by
  obtain ⟨segments, span⟩ := path
  cases segments with
  | nil => exact .unbound
  | cons first rest =>
    have same : left.get? first.name = right.get? first.name := agree first.name List.mem_cons_self
    simp only [resolve, same]
    cases right.get? first.name with
    | none => exact .unbound
    | some value => exact .same

theorem Operand.resolve_alike {operand : Operand} (agree : left.AgreesOn right operand.roots) :
    Alike left right (operand.resolve left) (operand.resolve right) := by
  cases operand with
  | literal => exact .same
  | path path => exact Path.resolve_alike agree

theorem FilterUse.run_alike {use : FilterUse} (agree : left.AgreesOn right (use.argument.toList.flatMap Operand.roots))
    (value : Value) : Alike left right (use.run left value) (use.run right value) := by
  refine .bind ?_ fun argument => .same
  cases given : use.argument with
  | none => exact .same
  | some operand =>
    rw [given, Option.toList_some, List.flatMap_singleton] at agree
    simp only [Option.mapM_some, map_eq_pure_bind]
    exact (Operand.resolve_alike agree).bind fun argument => .same

theorem applyFilters_alike {filters : List FilterUse}
    (agree : left.AgreesOn right ((filters.filterMap (·.argument)).flatMap Operand.roots)) (value : Value) :
    Alike left right (applyFilters left value filters) (applyFilters right value filters) := by
  rw [applyFilters, applyFilters]
  induction filters generalizing value with
  | nil => exact .same
  | cons use filters ih =>
    rw [arguments_cons, List.flatMap_append] at agree
    rw [List.foldlM_cons, List.foldlM_cons]
    exact (FilterUse.run_alike (agree.mono (List.subset_append_left _ _)) value).bind fun next =>
      ih (agree.mono (List.subset_append_right _ _)) next

theorem Expression.shown_alike {e : Expression} (agree : left.AgreesOn right (e.operands.flatMap Operand.roots))
    (settings : Settings) : Alike left right (e.shown left settings) (e.shown right settings) := by
  rw [operands, List.flatMap_cons] at agree
  have base : left.AgreesOn right e.base.roots := agree.mono (List.subset_append_left _ _)
  have filtered (value : Value) :
      Alike left right (applyFilters left value e.filters) (applyFilters right value e.filters) :=
    applyFilters_alike (agree.mono (List.subset_append_right _ _)) value
  have strict : Alike left right (e.base.resolve left >>= (applyFilters left · e.filters))
      (e.base.resolve right >>= (applyFilters right · e.filters)) :=
    (Operand.resolve_alike base).bind filtered
  unfold shown
  cases found : e.base with
  | literal => rwa [found] at strict
  | path path =>
    cases settings.undefined with
    | strict => rwa [found] at strict
    | lenient =>
      rw [found] at base
      dsimp only
      rw [(Path.resolve_alike base).orMissing_eq]
      refine Alike.same.bind fun resolved => ?_
      cases resolved with
      | some value => exact filtered value
      | none =>
        dsimp only
        split
        next => exact filtered _
        next => exact .same

theorem Expression.render_alike {e : Expression} (agree : left.AgreesOn right (e.operands.flatMap Operand.roots))
    (settings : Settings) : Alike left right (e.render left settings) (e.render right settings) := by
  rw [render_eq, render_eq]
  exact (Expression.shown_alike agree settings).bind fun value => .same

theorem render_agreeing {template : Template} (agree : left.AgreesOn right template.roots) (settings : Settings) :
    Alike left right (template.render left settings) (template.render right settings) := by
  rw [render, render]
  rw [roots, operands] at agree
  generalize template.nodes = nodes at agree
  induction nodes with
  | nil => exact .same
  | cons node nodes ih =>
    rw [List.flatMap_cons, List.flatMap_append] at agree
    have first : Alike left right (node.render left settings) (node.render right settings) := by
      cases node with
      | text => exact .same
      | load => exact .same
      | «variable» e span => exact Expression.render_alike (agree.mono (List.subset_append_left _ _)) settings
    exact first.bind fun text => (ih (agree.mono (List.subset_append_right _ _))).bind fun others => .same

end

end Template

/-- In two contexts that give the same for the names with which paths of the template start, a template renders to the
same text, or fails with the same error, but for the list of the whole context where such a name is unbound. A context and
the one scope that stands for its stack are such a pair. -/
theorem Engine.render_reads (engine : Engine) (template : Template) :
    (∀ left right : Context, left.AgreesOn right template.roots →
      Evaluation.Alike left right (engine.render template left) (engine.render template right)) ∧
    ∀ context : Context, Evaluation.Alike context (.ofScope context.flatten) (engine.render template context)
      (engine.render template (.ofScope context.flatten)) :=
  ⟨fun _ _ agree => Template.render_agreeing agree engine.settings,
    fun context => Template.render_agreeing (fun name _ => (context.get?_ofScope_flatten name).symm) engine.settings⟩

/-- Contexts that differ in a name which the template does not mention: both renders fail at the same name, and only the
lists of the contexts differ. -/
theorem Engine.render_reads_unbound :
    let engine : Engine := ⟨{ builtins := ["custom_filters"] }, Fixture.libraries.catalog⟩
    let left : Context := (Context.empty.set "a" (.text "x")).set "other" .none
    let right : Context := (Context.empty.push.set "other" (.bool true)).push.set "a" (.text "x")
    ∃ template, engine.parse "\x7b\x7b a|cut:b.c \x7d\x7d" = .ok template ∧ left.AgreesOn right template.roots ∧
      Evaluation.Alike left right (engine.render template left) (engine.render template right) ∧
      (engine.render template left).outcome = .error (.missing "b" left.repr ⟨9, 10⟩ none) ∧
      (engine.render template right).outcome = .error (.missing "b" right.repr ⟨9, 10⟩ none) ∧
      left.repr ≠ right.repr := by
  intro engine left right
  have done : (engine.parse "\x7b\x7b a|cut:b.c \x7d\x7d").toOption.map (fun template => (template.roots,
      (engine.render template left).outcome, (engine.render template right).outcome)) =
        some (["a", "b"], .error (.missing "b" left.repr ⟨9, 10⟩ none), .error (.missing "b" right.repr ⟨9, 10⟩ none)) := by
    decide +kernel
  obtain ⟨template, parsed, outcomes⟩ := Option.map_eq_some_iff.mp done
  obtain ⟨named, leftFails, rightFails⟩ : _ ∧ _ ∧ _ := by simpa only [Prod.mk.injEq] using outcomes
  have agree : left.AgreesOn right template.roots := by
    rw [named]
    exact List.forall_mem_cons.mpr ⟨rfl, List.forall_mem_singleton.mpr rfl⟩
  exact ⟨template, Outcome.of_toOption parsed, agree, (Engine.render_reads engine template).1 left right agree,
    leftFails, rightFails, by decide +kernel⟩

end Stencil
