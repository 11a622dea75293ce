import Stencil.Fixture.Probe
import Stencil.Proofs.Lookups

/-! What a chain of filters passes on: the values that its filters return themselves, the mark of text that is not to be
escaped, and the failure of the first filter that fails. -/

set_option autoImplicit false

namespace Stencil

/-- The value that goes on behind a filter: what the filter returned, marked if the filter keeps the mark of its value. -/
def Filter.passes (filter : Filter) (value returned : Value) : Value :=
  if filter.keepsSafety && value.isSafe then returned.markSafe else returned

theorem Filter.passes_isSafe (filter : Filter) (value returned : Value) : (filter.passes value returned).isSafe =
    (returned.isSafe || (value.isSafe && (filter.keepsSafety && returned.asText?.isSome))) := by
  rw [passes]
  cases filter.keepsSafety <;> cases value.isSafe <;> cases returned <;> rfl

namespace Traced

variable {α β : Type}

/-- What follows an evaluation matters only for the value that it gives. -/
theorem bind_congr_of_ok {x : Traced α} {f g : α → Traced β}
    (same : ∀ a, x.evaluation.outcome = .ok a → f a = g a) : x >>= f = x >>= g := by
  change andThen x f = andThen x g
  cases given : x.evaluation.outcome with
  | ok a => simp only [andThen, given, Evaluation.bind_ok given, same a given]
  | error error => simp only [andThen, given, Evaluation.bind_error given]

end Traced

namespace Template

/-- A chain of filters that all succeed, with what each of them returned for the value that the one before it passed on
and its own argument, and the value at the end. -/
inductive Returns (context : Context) : Value → List FilterUse → List Value → Value → Prop
  | done {value : Value} : Returns context value [] [] value
  | step {value output last : Value} {argument : Option Value} {use : FilterUse} {uses : List FilterUse}
      {returned : List Value} :
      Option.Rel (fun operand value => (Operand.resolve operand context).outcome = .ok value) use.argument argument →
      use.filter.apply value argument = .ok output →
      Returns context (use.filter.passes value output) uses returned last →
      Returns context value (use :: uses) (output :: returned) last

/-- The mark that stands at the end of a chain was made by stage `origin`, the base for 0, and each filter behind it is
declared to keep the mark and returned text. -/
structure MarkedFrom (origin : Nat) (base : Value) (uses : List FilterUse) (returned : List Value) : Prop where
  own : ∃ value, (base :: returned)[origin]? = some value ∧ value.isSafe = true
  kept : ∀ stage ∈ (uses.zip returned).drop origin,
    stage.1.filter.keepsSafety = true ∧ stage.2.asText?.isSome = true

section
variable {context : Context} {base value output last : Value} {use : FilterUse} {uses others : List FilterUse}
  {returned : List Value}

theorem FilterUse.run_eq_ok_iff : (use.run context value).outcome = .ok last ↔ ∃ argument output,
    Option.Rel (fun operand value => (Operand.resolve operand context).outcome = .ok value) use.argument argument ∧
      use.filter.apply value argument = .ok output ∧ last = use.filter.passes value output := by
  have host (result : Except HostFailure Value) (output : Value) :
      (Evaluation.ofHost result).outcome = .ok output ↔ result = .ok output := by
    cases result <;> simp [Evaluation.ofHost, Except.mapError]
  rw [run, Evaluation.outcome_bind, Outcome.bind_eq_ok]
  refine exists_congr fun argument => ?_
  rw [Evaluation.outcome_bind, Outcome.bind_eq_ok, ← exists_and_left, Evaluation.outcome_mapM, Outcome.mapM_eq_ok]
  refine exists_congr fun output => and_congr_right fun _ => and_congr (host _ _) ?_
  exact ⟨fun done => (Except.ok.inj done).symm, fun same => congrArg _ same.symm⟩

theorem applyFilters_append (context : Context) (base : Value) (uses others : List FilterUse) :
    applyFilters context base (uses ++ others) =
      applyFilters context base uses >>= fun value => applyFilters context value others :=
  List.foldlM_append

/-- A chain succeeds with a value exactly if its filters succeed one after the other and end with it. -/
theorem applyFilters_eq_ok_iff :
    (applyFilters context base uses).outcome = .ok last ↔ ∃ returned, Returns context base uses returned last := by
  induction uses generalizing base with
  | nil =>
    constructor
    · intro done
      cases done
      exact ⟨[], .done⟩
    · rintro ⟨_, ⟨⟩⟩
      rfl
  | cons use uses ih =>
    rw [applyFilters, List.foldlM_cons, Evaluation.outcome_bind, Outcome.bind_eq_ok]
    constructor
    · rintro ⟨next, ran, rest⟩
      obtain ⟨argument, output, resolved, applied, rfl⟩ := FilterUse.run_eq_ok_iff.mp ran
      obtain ⟨returned, returns⟩ := ih.mp rest
      exact ⟨output :: returned, .step resolved applied returns⟩
    · rintro ⟨_, returns⟩
      cases returns with
      | step resolved applied returns =>
        exact ⟨_, FilterUse.run_eq_ok_iff.mpr ⟨_, _, resolved, applied, rfl⟩, ih.mpr ⟨_, returns⟩⟩

/-- The mark at the end, from what the filters are declared to keep and what they returned: arguments are not in it. -/
theorem Returns.isSafe_eq (returns : Returns context base uses returned last) :
    last.isSafe = ((uses.map (·.filter.keepsSafety)).zip returned).foldl
      (fun mark (keeps, output) => output.isSafe || (mark && (keeps && output.asText?.isSome))) base.isSafe := by
  induction returns with
  | done => rfl
  | step _ _ _ ih => rw [ih, Filter.passes_isSafe, List.map_cons, List.zip_cons_cons, List.foldl_cons]

theorem markedFrom_zero : MarkedFrom 0 base uses returned ↔ base.isSafe = true ∧ ∀ stage ∈ uses.zip returned,
    stage.1.filter.keepsSafety = true ∧ stage.2.asText?.isSome = true :=
  ⟨fun ⟨⟨_, same, own⟩, kept⟩ => ⟨Option.some.inj same ▸ own, kept⟩, fun ⟨own, kept⟩ => ⟨⟨base, rfl, own⟩, kept⟩⟩

theorem markedFrom_succ {origin : Nat} : MarkedFrom (origin + 1) base (use :: uses) (output :: returned) ↔
    MarkedFrom origin output uses returned :=
  ⟨fun ⟨own, kept⟩ => ⟨own, kept⟩, fun ⟨own, kept⟩ => ⟨own, kept⟩⟩

/-- Behind the base, no stage depends on it. -/
theorem markedFrom_behind {origin : Nat} :
    MarkedFrom (origin + 1) base uses returned ↔ MarkedFrom (origin + 1) value uses returned :=
  ⟨fun ⟨own, kept⟩ => ⟨own, kept⟩, fun ⟨own, kept⟩ => ⟨own, kept⟩⟩

theorem exists_markedFrom_cons : (∃ origin, MarkedFrom origin base (use :: uses) (output :: returned)) ↔
    ∃ origin, MarkedFrom origin (use.filter.passes base output) uses returned := by
  have first : MarkedFrom 0 base (use :: uses) (output :: returned) ∨ MarkedFrom 0 output uses returned ↔
      MarkedFrom 0 (use.filter.passes base output) uses returned := by
    simp only [markedFrom_zero, Filter.passes_isSafe, List.zip_cons_cons, List.forall_mem_cons, Bool.or_eq_true,
      Bool.and_eq_true]
    tauto
  -- The first filter makes the mark itself, passes on that of the base, or neither, and then a later one makes it.
  calc (∃ origin, MarkedFrom origin base (use :: uses) (output :: returned))
    _ ↔ MarkedFrom 0 base (use :: uses) (output :: returned) ∨ ∃ origin, MarkedFrom origin output uses returned := by
      rw [← Nat.or_exists_add_one]
      simp only [markedFrom_succ]
    _ ↔ MarkedFrom 0 (use.filter.passes base output) uses returned ∨
        ∃ origin, MarkedFrom (origin + 1) output uses returned := by
      rw [← Nat.or_exists_add_one, ← or_assoc, first]
    _ ↔ ∃ origin, MarkedFrom origin (use.filter.passes base output) uses returned := by
      rw [← Nat.or_exists_add_one (p := fun origin => MarkedFrom origin (use.filter.passes base output) uses returned)]
      exact or_congr_right (exists_congr fun _ => markedFrom_behind)

theorem Returns.isSafe_iff (returns : Returns context base uses returned last) :
    last.isSafe = true ↔ ∃ origin, MarkedFrom origin base uses returned := by
  induction returns with
  | @done value =>
    constructor
    · exact fun marked => ⟨0, markedFrom_zero.mpr ⟨marked, nofun⟩⟩
    · rintro ⟨origin, ⟨_, found, own⟩, -⟩
      cases origin with
      | zero => exact Option.some.inj found ▸ own
      | succ => cases found
  | step _ _ _ ih => rw [ih, exists_markedFrom_cons]

/-- Behind filters of which one fails, nothing is looked up and no filter is applied. -/
theorem traceFilters_append_of_error {error : RenderError}
    (failed : (applyFilters context base uses).outcome = .error error) (others : List FilterUse) :
    traceFilters context base (uses ++ others) = traceFilters context base uses := by
  induction uses generalizing base with
  | nil => cases failed
  | cons use uses ih =>
    rw [applyFilters, List.foldlM_cons, Evaluation.outcome_bind, Outcome.bind_eq_error] at failed
    refine Traced.bind_congr_of_ok fun next ran => ?_
    rw [use.trace_evaluation context] at ran
    rcases failed with here | ⟨value, passed, later⟩
    · rw [here] at ran
      cases ran
    · cases passed.symm.trans ran
      exact ih later

end

/-- What a chain of filters gives is marked exactly if one of its stages made the mark and all filters behind it keep
it, whatever the marks of arguments; and a chain in two parts is the first and then the second, of which nothing is done
or looked up if the first fails. -/
theorem applyFilters_marks (context : Context) (base : Value) (uses : List FilterUse) :
    (∀ last, (applyFilters context base uses).outcome = .ok last ↔ ∃ returned, Returns context base uses returned last) ∧
    (∀ returned last, Returns context base uses returned last →
      (last.isSafe = true ↔ ∃ origin, MarkedFrom origin base uses returned) ∧
      ∀ {otherContext : Context} {otherBase otherLast : Value} {otherUses : List FilterUse},
        Returns otherContext otherBase otherUses returned otherLast → otherBase.isSafe = base.isSafe →
        otherUses.map (·.filter.keepsSafety) = uses.map (·.filter.keepsSafety) → otherLast.isSafe = last.isSafe) ∧
    ∀ others, applyFilters context base (uses ++ others) =
        (do applyFilters context (← applyFilters context base uses) others) ∧
      ∀ error, (applyFilters context base uses).outcome = .error error →
        traceFilters context base (uses ++ others) = traceFilters context base uses := by
  refine ⟨fun last => applyFilters_eq_ok_iff, fun returned last returns => ⟨returns.isSafe_iff, ?_⟩, fun others =>
    ⟨applyFilters_append context base uses others, fun error failed => traceFilters_append_of_error failed others⟩⟩
  intro _ _ _ _ other sameBase sameFlags
  rw [other.isSafe_eq, returns.isSafe_eq, sameBase, sameFlags]

/-- A filter that marks text itself, and one that keeps the mark whether its argument is marked or not; behind one that
fails, a name that is bound nowhere is not missed. -/
theorem applyFilters_marks_joined :
    let use (probe : Fixture.Probe) (keeps : Bool) (argument : Option Operand) : FilterUse :=
      ⟨"f", "l", probe.filter .optional keeps, argument, ⟨0, 0⟩⟩
    let quoted : Operand := .literal (.safeText "<i>") ⟨0, 0⟩
    let unbound : Operand := .path ⟨[⟨"x", ⟨0, 1⟩⟩], ⟨0, 1⟩⟩
    let uses (argument : Option Operand) := [use .markSafe false none, use .joined true argument]
    let failing := uses none ++ [use (.fail "no") true none]
    let context := Context.empty.set "i" (.text "<i>")
    let returned := [.safeText "a", .text "a|<i>"]
    Returns context (.text "a") (uses (some quoted)) returned (.safeText "a|<i>") ∧
      (∃ origin, MarkedFrom origin (.text "a") (uses (some quoted)) returned) ∧
      Returns context (.text "a") (uses (some (.path ⟨[⟨"i", ⟨0, 1⟩⟩], ⟨0, 1⟩⟩))) returned (.safeText "a|<i>") ∧
      (applyFilters context (.text "a") failing).outcome = .error (.host (.other "no")) ∧
      traceFilters context (.text "a") (failing ++ [use .argument false (some unbound)]) =
        traceFilters context (.text "a") failing := by
  intro use quoted unbound uses failing context returned
  have literal : Returns context (.text "a") (uses (some quoted)) returned (.safeText "a|<i>") :=
    .step .none rfl (.step (.some rfl) rfl .done)
  have named : Returns context (.text "a") (uses (some (.path ⟨[⟨"i", ⟨0, 1⟩⟩], ⟨0, 1⟩⟩))) returned
      (.safeText "a|<i>") :=
    .step .none rfl (.step (.some rfl) rfl .done)
  have fails : (applyFilters context (.text "a") failing).outcome = .error (.host (.other "no")) := rfl
  obtain ⟨marked, alike⟩ := (applyFilters_marks context (.text "a") (uses (some quoted))).2.1 _ _ literal
  obtain ⟨-, alone⟩ := (applyFilters_marks context (.text "a") failing).2.2 [use .argument false (some unbound)]
  exact ⟨literal, marked.mp ((alike named rfl rfl).symm.trans rfl), named, fails, alone _ fails⟩

end Template

end Stencil
