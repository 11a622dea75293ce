import Stencil.Proofs.Operands
import Stencil.Rendering

/-! The names that a render looks up: rendering told once more, with a log of every name that is looked up in the
context, in a dictionary or on a host object. It gives what rendering gives, and looks up names of the template only. -/

set_option autoImplicit false

namespace Stencil

/-- Where a name is looked up. -/
inductive Place where
  | context
  | dictionary
  | object (identity : Nat)
  deriving DecidableEq, Repr

structure Lookup where
  place : Place
  name : String
  deriving DecidableEq, Repr

/-- An evaluation, and the lookups that it makes, in order. -/
structure Traced (α : Type) where
  lookups : List Lookup
  evaluation : Evaluation α

namespace Traced

variable {α β : Type}

/-- An evaluation that looks nothing up. -/
def silent (x : Evaluation α) : Traced α := ⟨[], x⟩

def andThen (x : Traced α) (f : α → Traced β) : Traced β where
  lookups := match x.evaluation.outcome with
    | .ok a => x.lookups ++ (f a).lookups
    | .error _ => x.lookups
  evaluation := x.evaluation >>= fun a => (f a).evaluation

instance : Monad Traced where
  pure a := silent (pure a)
  bind := andThen

def orMissing (x : Traced α) : Traced (Option α) := ⟨x.lookups, x.evaluation.orMissing⟩

/-- Only some names are looked up. -/
def Among (names : List String) (x : Traced α) : Prop := ∀ lookup ∈ x.lookups, lookup.name ∈ names

theorem evaluation_bind (x : Traced α) (f : α → Traced β) :
    (x >>= f).evaluation = x.evaluation >>= fun a => (f a).evaluation := rfl

theorem among_silent (names : List String) (x : Evaluation α) : (silent x).Among names := nofun

theorem Among.mono {some_ all : List String} {x : Traced α} (among : x.Among some_) (subset : some_ ⊆ all) :
    x.Among all := fun lookup member => subset (among lookup member)

theorem mem_lookups_bind {x : Traced α} {f : α → Traced β} {lookup : Lookup} : lookup ∈ (x >>= f).lookups ↔
    lookup ∈ x.lookups ∨ ∃ a, x.evaluation.outcome = .ok a ∧ lookup ∈ (f a).lookups := by
  change lookup ∈ (andThen x f).lookups ↔ _
  unfold andThen
  cases x.evaluation.outcome <;> simp

theorem Among.bind {names : List String} {x : Traced α} {f : α → Traced β} (first : x.Among names)
    (next : ∀ a, (f a).Among names) : (x >>= f).Among names := by
  intro lookup member
  rcases mem_lookups_bind.mp member with here | ⟨a, -, later⟩
  · exact first lookup here
  · exact next a lookup later

end Traced

/-- Where a value looks names up, if it knows names: lists and texts only count. -/
def Value.place? : Value → Option Place
  | .dict _ => some .dictionary
  | .object o => some (.object o.identity)
  | _ => Option.none

def Value.look (v : Value) (name : String) : Traced (Option (Attribute Value)) :=
  ⟨v.place?.toList.map (⟨·, name⟩), pure (v.attribute? name)⟩

def Context.look (context : Context) (name : String) : Traced (Option Value) :=
  ⟨[⟨.context, name⟩], pure (context.get? name)⟩

namespace Template

def Path.traceFollow (path : Path) (index : Nat) (current : Value) : List Segment → Traced Value
  | [] => pure current
  | segment :: rest => do
    match ← current.look segment.name with
    | none => .silent (.fail (.missing segment.name current.reprText segment.span (some (path.prefixSpan index))))
    | some found => do
      let next ← .silent (found.evaluate current segment.name)
      path.traceFollow (index + 1) next rest

def Path.trace (path : Path) (context : Context) : Traced Value :=
  match path.segments with
  | [] => .silent (.fail (.missing "" context.repr path.span none))
  | first :: rest => do
    match ← context.look first.name with
    | none => .silent (.fail (.missing first.name context.repr first.span none))
    | some value => path.traceFollow 0 value rest

def Operand.trace (operand : Operand) (context : Context) : Traced Value :=
  match operand with
  | .literal value _ => pure value
  | .path p => p.trace context

def FilterUse.trace (use : FilterUse) (context : Context) (value : Value) : Traced Value := do
  let argument ← use.argument.mapM (·.trace context)
  let output ← .silent (Evaluation.ofHost (use.filter.apply value argument))
  return if use.filter.keepsSafety && value.isSafe then output.markSafe else output

def traceFilters (context : Context) (value : Value) (filters : List FilterUse) : Traced Value :=
  filters.foldlM (fun v use => use.trace context v) value

def Expression.trace (expression : Expression) (context : Context) (settings : Settings) : Traced String :=
  let finish (base : Value) : Traced String := do
    return (← traceFilters context base expression.filters).render settings.autoescape
  match expression.base, settings.undefined with
  | .path path, .lenient => do
    match ← (path.trace context).orMissing with
    | some base => finish base
    | none =>
      if settings.stringIfInvalid.isEmpty then finish (.text "")
      else return (Value.text (settings.replacement path.text)).render settings.autoescape
  | base, _ => do finish (← base.trace context)

def Node.trace (node : Node) (context : Context) (settings : Settings) : Traced String :=
  match node with
  | .text content _ => pure content
  | .variable expression _ => expression.trace context settings
  | .load _ _ => pure ""

def traceNodes (context : Context) (settings : Settings) : List Node → Traced String
  | [] => pure ""
  | node :: nodes => do
    let first ← node.trace context settings
    let others ← traceNodes context settings nodes
    return first ++ others

/-- A render with its lookups. -/
def trace (template : Template) (context : Context) (settings : Settings) : Traced String :=
  traceNodes context settings template.nodes

section
variable (context : Context) (settings : Settings)

theorem Path.traceFollow_evaluation (path : Path) (index : Nat) (current : Value) (rest : List Segment) :
    (path.traceFollow index current rest).evaluation = path.follow index current rest := by
  induction rest generalizing index current with
  | nil => rfl
  | cons segment rest ih =>
    have looked : (current.look segment.name).evaluation = pure (current.attribute? segment.name) := rfl
    rw [traceFollow, follow, Traced.evaluation_bind, looked, pure_bind]
    cases current.attribute? segment.name with
    | none => rfl
    | some found =>
      dsimp only
      rw [Traced.evaluation_bind]
      exact bind_congr fun next => ih (index + 1) next

theorem Path.trace_evaluation (path : Path) : (path.trace context).evaluation = path.resolve context := by
  rw [trace, resolve]
  cases path.segments with
  | nil => rfl
  | cons first rest =>
    have looked : (context.look first.name).evaluation = pure (context.get? first.name) := rfl
    dsimp only
    rw [Traced.evaluation_bind, looked, pure_bind]
    cases context.get? first.name with
    | none => rfl
    | some value => exact path.traceFollow_evaluation 0 value rest

theorem Operand.trace_evaluation (operand : Operand) :
    (operand.trace context).evaluation = operand.resolve context := by
  cases operand with
  | literal => rfl
  | path path => exact path.trace_evaluation context

theorem FilterUse.trace_evaluation (use : FilterUse) (value : Value) :
    (use.trace context value).evaluation = use.run context value := by
  have argument : (use.argument.mapM fun operand : Operand => operand.trace context).evaluation =
      use.argument.mapM fun operand => operand.resolve context := by
    cases use.argument with
    | none => rfl
    | some operand =>
      rw [Option.mapM_some, Option.mapM_some, ← operand.trace_evaluation context]
      rfl
  rw [trace, run, Traced.evaluation_bind, argument]
  rfl

theorem traceFilters_evaluation (value : Value) (filters : List FilterUse) :
    (traceFilters context value filters).evaluation = applyFilters context value filters := by
  rw [traceFilters, applyFilters]
  induction filters generalizing value with
  | nil => rfl
  | cons use filters ih =>
    rw [List.foldlM_cons, List.foldlM_cons, Traced.evaluation_bind, use.trace_evaluation context]
    exact bind_congr ih

theorem Expression.trace_evaluation (e : Expression) :
    (e.trace context settings).evaluation = e.render context settings := by
  have finish (base : Value) : (do
      return (← traceFilters context base e.filters).render settings.autoescape : Traced String).evaluation = do
        return (← applyFilters context base e.filters).render settings.autoescape := by
    rw [Traced.evaluation_bind, traceFilters_evaluation]
    rfl
  rw [trace, render]
  cases e.base with
  | literal value span => exact finish value
  | path path =>
    cases settings.undefined with
    | strict =>
      dsimp only
      rw [Traced.evaluation_bind, Operand.trace_evaluation]
      exact bind_congr finish
    | lenient =>
      have missing : (path.trace context).orMissing.evaluation = (path.resolve context).orMissing := by
        rw [← path.trace_evaluation context]
        rfl
      dsimp only
      rw [Traced.evaluation_bind, missing]
      refine bind_congr fun found => ?_
      cases found with
      | some value => exact finish value
      | none =>
        dsimp only
        split
        next => exact finish _
        next => rfl

theorem traceNodes_evaluation (nodes : List Node) :
    (traceNodes context settings nodes).evaluation = renderNodes context settings nodes := by
  induction nodes with
  | nil => rfl
  | cons node nodes ih =>
    have first : (node.trace context settings).evaluation = node.render context settings := by
      cases node with
      | text => rfl
      | load => rfl
      | «variable» e span => exact e.trace_evaluation context settings
    rw [traceNodes, renderNodes, Traced.evaluation_bind, first]
    refine bind_congr fun text => ?_
    rw [Traced.evaluation_bind, ih]
    rfl

/-- A render with its lookups gives what the render gives. -/
theorem trace_evaluation (template : Template) :
    (template.trace context settings).evaluation = template.render context settings :=
  traceNodes_evaluation context settings template.nodes

end

/-- The names of a path; a literal has none. -/
def Operand.names : Operand → List String
  | .literal _ _ => []
  | .path p => p.segments.map (·.name)

section
variable (context : Context) (settings : Settings) {names : List String}

theorem Path.traceFollow_among {path : Path} {index : Nat} {current : Value} {rest : List Segment}
    (named : ∀ segment ∈ rest, segment.name ∈ names) : (path.traceFollow index current rest).Among names := by
  induction rest generalizing index current with
  | nil => exact Traced.among_silent _ _
  | cons segment rest ih =>
    obtain ⟨here, later⟩ := List.forall_mem_cons.mp named
    rw [traceFollow]
    refine .bind (fun lookup member => ?_) fun found => ?_
    · obtain ⟨place, -, rfl⟩ := List.mem_map.mp member
      exact here
    · cases found with
      | none => exact Traced.among_silent _ _
      | some found => exact .bind (Traced.among_silent _ _) fun next => ih later

theorem Path.trace_among (path : Path) : (path.trace context).Among (path.segments.map (·.name)) := by
  rw [trace]
  cases path.segments with
  | nil => exact Traced.among_silent _ _
  | cons first rest =>
    refine .bind (fun lookup member => ?_) fun found => ?_
    · rw [List.mem_singleton.mp member]
      exact List.mem_cons_self
    · cases found with
      | none => exact Traced.among_silent _ _
      | some value =>
        exact traceFollow_among fun segment member => List.mem_cons_of_mem _ (List.mem_map_of_mem member)

theorem Operand.trace_among (operand : Operand) : (operand.trace context).Among operand.names := by
  cases operand with
  | literal => exact Traced.among_silent _ _
  | path path => exact path.trace_among context

theorem FilterUse.trace_among (use : FilterUse) (value : Value) :
    (use.trace context value).Among (use.argument.toList.flatMap Operand.names) := by
  refine .bind ?_ fun argument => .bind (Traced.among_silent _ _) fun output => Traced.among_silent _ _
  cases use.argument with
  | none => exact Traced.among_silent _ _
  | some operand =>
    rw [Option.mapM_some, Option.toList_some, List.flatMap_singleton]
    exact .bind (operand.trace_among context) fun value => Traced.among_silent _ _

theorem traceFilters_among (value : Value) (filters : List FilterUse) :
    (traceFilters context value filters).Among ((filters.filterMap (·.argument)).flatMap Operand.names) := by
  rw [traceFilters]
  induction filters generalizing value with
  | nil => exact Traced.among_silent _ _
  | cons use filters ih =>
    rw [List.foldlM_cons, arguments_cons, List.flatMap_append]
    refine .bind ((use.trace_among context value).mono (List.subset_append_left _ _)) fun next => ?_
    exact (ih next).mono (List.subset_append_right _ _)

theorem Expression.trace_among (e : Expression) :
    (e.trace context settings).Among (e.operands.flatMap Operand.names) := by
  rw [operands, List.flatMap_cons]
  have finish (base : Value) : (do
      return (← traceFilters context base e.filters).render settings.autoescape : Traced String).Among
        (e.base.names ++ (e.filters.filterMap (·.argument)).flatMap Operand.names) :=
    .bind ((traceFilters_among context base e.filters).mono (List.subset_append_right _ _)) fun output =>
      Traced.among_silent _ _
  unfold trace
  dsimp only
  split
  next path base _ =>
    rw [base] at finish ⊢
    refine .bind ((path.trace_among context).mono (List.subset_append_left _ _)) fun found => ?_
    cases found with
    | some value => exact finish value
    | none =>
      dsimp only
      split
      next => exact finish _
      next => exact Traced.among_silent _ _
  next => exact .bind ((e.base.trace_among context).mono (List.subset_append_left _ _)) finish

/-- A render looks up names of paths of the template only. -/
theorem trace_among (template : Template) :
    (template.trace context settings).Among (template.operands.flatMap Operand.names) := by
  rw [trace, operands]
  generalize template.nodes = nodes
  induction nodes with
  | nil => exact Traced.among_silent _ _
  | cons node nodes ih =>
    rw [List.flatMap_cons, List.flatMap_append]
    refine .bind (Traced.Among.mono ?_ (List.subset_append_left _ _)) fun first =>
      .bind (ih.mono (List.subset_append_right _ _)) fun others => Traced.among_silent _ _
    cases node with
    | text => exact Traced.among_silent _ _
    | load => exact Traced.among_silent _ _
    | «variable» e span => exact e.trace_among context settings

end

end Template

end Stencil
