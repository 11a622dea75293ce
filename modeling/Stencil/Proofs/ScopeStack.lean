import Mathlib.Data.List.Induction
import Mathlib.Data.List.ModifyLast
import Stencil.Context

/-! The scopes of a context under any run of pushes, pops and bindings, and the one scope that stands for them all. -/

set_option autoImplicit false

namespace Stencil

namespace Entries

variable {α : Type} {pairs : Entries α} (distinct : pairs.Distinct) (entries : Entries α)
include distinct

/-- Pairs that are entered cover what was there. -/
theorem get?_insertAll (name : String) :
    (entries.insertAll pairs).get? name = (get? name pairs).or (entries.get? name) := by
  induction pairs generalizing entries with
  | nil => rfl
  | cons pair pairs ih =>
    obtain ⟨key, value⟩ := pair
    obtain ⟨fresh, distinct⟩ := List.nodup_cons.mp distinct
    have step : entries.insertAll ((key, value) :: pairs) = (entries.insert key value).insertAll pairs := rfl
    rw [step, ih distinct, get?_insert, get?]
    by_cases same : key = name
    · have unbound : get? name pairs = none := by
        rw [← Option.not_isSome_iff_eq_none, ← mem_keys_iff, ← same]
        exact fresh
      simp [same, unbound]
    · simp [same]

/-- Keys that were there stay in their places, and the new ones follow in their order. -/
theorem keys_insertAll :
    (entries.insertAll pairs).keys = entries.keys ++ (keys pairs).filter (· ∉ entries.keys) := by
  induction pairs generalizing entries with
  | nil => simp [insertAll, keys]
  | cons pair pairs ih =>
    obtain ⟨key, value⟩ := pair
    obtain ⟨fresh, distinct⟩ := List.nodup_cons.mp distinct
    have fresh : key ∉ keys pairs := fresh
    have step : entries.insertAll ((key, value) :: pairs) = (entries.insert key value).insertAll pairs := rfl
    have head : keys ((key, value) :: pairs) = key :: keys pairs := rfl
    rw [step, ih distinct, keys_insert, head]
    by_cases known : key ∈ entries.keys
    · simp [known]
    · have others : (keys pairs).filter (· ∉ keys entries ++ [key]) = (keys pairs).filter (· ∉ keys entries) := by
        refine List.filter_congr fun name member => ?_
        have other : name ≠ key := fun same => fresh (same ▸ member)
        simp [other]
      rw [if_neg known, others]
      simp [known]

end Entries

namespace Scope

variable {scopes : List Scope} {name first second : String}

/-- One scope for scopes given from the lowest up. -/
def merge (scopes : List Scope) : Scope :=
  scopes.foldl (fun flat scope => flat.insertAll scope.entries) .empty

/-- Where two names are first met from the lowest scope up: the first in a lower scope than the second, or in the same
one before it. -/
def Before (scopes : List Scope) (first second : String) : Prop :=
  ∃ below scope above, scopes = below ++ scope :: above ∧
    (∀ lower ∈ below, first ∉ lower.keys ∧ second ∉ lower.keys) ∧ first ∈ scope.keys ∧
    (second ∈ scope.keys → [first, second].Sublist scope.keys)

/-- The topmost of the scopes that bind the name binds it to the value. -/
def TopBinds (scopes : List Scope) (name : String) (value : Value) : Prop :=
  ∃ below scope above, scopes = below ++ scope :: above ∧ scope.get? name = some value ∧
    ∀ upper ∈ above, upper.get? name = none

theorem merge_concat (scopes : List Scope) (top : Scope) :
    merge (scopes ++ [top]) = (merge scopes).insertAll top.entries := by
  simp [merge]

theorem get?_merge (scopes : List Scope) (name : String) :
    (merge scopes).get? name = scopes.reverse.findSome? (·.get? name) := by
  induction scopes using List.reverseRecOn with
  | nil => rfl
  | append_singleton scopes top ih =>
    have covered := Entries.get?_insertAll top.distinct (merge scopes).entries name
    rw [← OrderedMap.entries_insertAll, ← merge_concat] at covered
    rw [List.reverse_append, List.findSome?_append, ← ih, List.reverse_singleton, List.findSome?_singleton]
    exact covered

theorem get?_merge_eq_some_iff {value : Value} :
    (merge scopes).get? name = some value ↔ TopBinds scopes name value := by
  rw [get?_merge, List.findSome?_eq_some_iff, TopBinds]
  constructor
  · rintro ⟨above, scope, below, split, bound, unbound⟩
    refine ⟨below.reverse, scope, above.reverse, ?_, bound, by simpa using unbound⟩
    simpa using congrArg List.reverse split
  · rintro ⟨below, scope, above, rfl, bound, unbound⟩
    exact ⟨above.reverse, scope, below.reverse, by simp, bound, by simpa using unbound⟩

theorem keys_merge_concat (scopes : List Scope) (top : Scope) :
    (merge (scopes ++ [top])).keys = (merge scopes).keys ++ top.keys.filter (· ∉ (merge scopes).keys) := by
  have listed := Entries.keys_insertAll top.distinct (merge scopes).entries
  rw [← OrderedMap.entries_insertAll, ← merge_concat] at listed
  exact listed

theorem mem_keys_merge : name ∈ (merge scopes).keys ↔ ∃ scope ∈ scopes, name ∈ scope.keys := by
  induction scopes using List.reverseRecOn with
  | nil => simp [merge, OrderedMap.keys, OrderedMap.empty, Entries.keys]
  | append_singleton scopes top ih =>
    have either : name ∈ (merge (scopes ++ [top])).keys ↔ name ∈ (merge scopes).keys ∨ name ∈ top.keys := by
      rw [keys_merge_concat]
      by_cases known : name ∈ (merge scopes).keys <;> simp [known]
    simp [either, ih, or_and_right, exists_or]

theorem Before.concat (before : Before scopes first second) (top : Scope) : Before (scopes ++ [top]) first second := by
  obtain ⟨below, scope, above, rfl, order⟩ := before
  exact ⟨below, scope, above ++ [top], by simp, order⟩

/-- The names of the merged scope stand in the order in which they are met from the lowest scope up. -/
theorem merge_ordered (scopes : List Scope) : (merge scopes).keys.Pairwise (Before scopes) := by
  induction scopes using List.reverseRecOn with
  | nil => exact .nil
  | append_singleton scopes top ih =>
    have unmet {name : String} (member : name ∈ top.keys.filter (· ∉ (merge scopes).keys)) :
        name ∈ top.keys ∧ ∀ lower ∈ scopes, name ∉ lower.keys := by
      obtain ⟨bound, new⟩ := List.mem_filter.mp member
      refine ⟨bound, fun lower among lowerBinds => ?_⟩
      exact of_decide_eq_true new (mem_keys_merge.mpr ⟨lower, among, lowerBinds⟩)
    rw [keys_merge_concat]
    refine List.pairwise_append.mpr ⟨ih.imp (Before.concat · top), ?_, ?_⟩
    · -- Both names are new in the top scope, which therefore decides.
      refine List.pairwise_iff_forall_sublist.mpr fun {first second} inOrder => ?_
      obtain ⟨bound, new⟩ := unmet (inOrder.subset List.mem_cons_self)
      obtain ⟨-, new'⟩ := unmet (inOrder.subset (List.mem_cons_of_mem _ List.mem_cons_self))
      exact ⟨scopes, top, [], rfl, fun lower among => ⟨new lower among, new' lower among⟩, bound,
        fun _ => inOrder.trans List.filter_sublist⟩
    · -- The first name is met in one of the lower scopes, none of which binds the second.
      intro first met second member
      obtain ⟨-, new⟩ := unmet member
      obtain ⟨scope, among, bound⟩ := mem_keys_merge.mp met
      have found : (scopes.find? (first ∈ ·.keys)).isSome :=
        List.find?_isSome.mpr ⟨scope, among, decide_eq_true bound⟩
      obtain ⟨lowest, found⟩ := Option.isSome_iff_exists.mp found
      obtain ⟨binds, below, above, rfl, unbound⟩ := List.find?_eq_some_iff_append.mp found
      refine Before.concat ⟨below, lowest, above, rfl, fun lower lies => ⟨?_, ?_⟩, of_decide_eq_true binds, ?_⟩ top
      · simpa using unbound lower lies
      · exact new lower (List.mem_append_left _ lies)
      · exact fun bound => absurd bound (new lowest (by simp))

end Scope

namespace Context

/-- What is done to a context. -/
inductive Action where
  | push
  | pop
  | set (name : String) (value : Value)

def Action.isPush : Action → Bool
  | .push => true
  | _ => false

def Action.isPop : Action → Bool
  | .pop => true
  | _ => false

/-- A pop that has no scope to take away leaves the context as it is. -/
def act (context : Context) : Action → Context
  | .push => context.push
  | .pop => (context.pop.map (·.2)).getD context
  | .set name value => context.set name value

def run (context : Context) (actions : List Action) : Context := actions.foldl act context

/-- The same done to a bare stack of scopes, given from the lowest up, of which two always stay. -/
def Action.onStack (scopes : List Scope) : Action → List Scope
  | .push => scopes ++ [.empty]
  | .pop => if 2 < scopes.length then scopes.dropLast else scopes
  | .set name value => scopes.modifyLast (·.insert name value)

/-- At no time more scopes were taken away than pushed, and at the end as many. -/
structure Balanced (actions : List Action) : Prop where
  guarded : ∀ front, front <+: actions → front.countP Action.isPop ≤ front.countP Action.isPush
  level : actions.countP Action.isPop = actions.countP Action.isPush

/-- What holds of a context whatever was done to it. -/
structure Lawful (context : Context) : Prop where
  bottom : context.bottomUp.head?.map (·.entries) = some [("True", .bool true), ("False", .bool false), ("None", .none)]
  depth_eq : context.depth = context.bottomUp.length
  two_le_depth : 2 ≤ context.depth
  pop_eq_none : context.pop = none ∧ context.act .pop = context ↔ context.depth = 2
  pop_eq_some : ∀ top rest, context.pop = some (top, rest) → context.bottomUp = rest.bottomUp ++ [top]
  get?_flatten : ∀ name, context.flatten.get? name = context.get? name
  contains : ∀ name, context.contains name = (context.get? name).isSome ∧
    context.flatten.contains name = context.contains name
  nodup_keys : context.flatten.keys.Nodup
  mem_keys : ∀ name, name ∈ context.flatten.keys ↔ ∃ scope ∈ context.bottomUp, name ∈ scope.keys
  ordered : context.flatten.keys.Pairwise (Scope.Before context.bottomUp)
  topmost : ∀ name value, context.flatten.get? name = some value ↔ Scope.TopBinds context.bottomUp name value
  restored : ∀ actions, Balanced actions → context.run (.push :: actions ++ [.pop]) = context

theorem bottomUp_pushed {base : Scope} {pushed : List Scope} (top : Scope) :
    bottomUp ⟨base, top :: pushed⟩ = bottomUp ⟨base, pushed⟩ ++ [top] := by
  simp [bottomUp]

theorem bottomUp_act (context : Context) (action : Action) :
    (context.act action).bottomUp = action.onStack context.bottomUp := by
  obtain ⟨base, pushed⟩ := context
  cases action with
  | push => exact bottomUp_pushed _
  | pop =>
    cases pushed with
    | nil => rfl
    | cons top pushed =>
      have high : 2 < (bottomUp ⟨base, top :: pushed⟩).length := by simp [bottomUp]
      rw [Action.onStack, if_pos high, bottomUp_pushed, List.dropLast_concat]
      rfl
  | set name value =>
    cases pushed with
    | nil => rfl
    | cons top pushed =>
      rw [Action.onStack, bottomUp_pushed, List.modifyLast_concat]
      exact bottomUp_pushed _

/-- The scopes of a context are those of the bare stack. -/
theorem bottomUp_run (context : Context) (actions : List Action) :
    (context.run actions).bottomUp = actions.foldl Action.onStack context.bottomUp := by
  induction actions generalizing context with
  | nil => rfl
  | cons action actions ih =>
    have step : context.run (action :: actions) = (context.act action).run actions := rfl
    rw [step, ih, bottomUp_act, List.foldl_cons]

theorem get?_flatten (context : Context) (name : String) : context.flatten.get? name = context.get? name := by
  have merged : context.flatten = Scope.merge context.bottomUp := rfl
  rw [merged, Scope.get?_merge, bottomUp_eq, List.reverse_reverse, get?]

/-- One scope for the whole stack serves every lookup as the stack does. -/
theorem get?_ofScope_flatten (context : Context) (name : String) :
    (ofScope context.flatten).get? name = context.get? name := by
  have both : (ofScope context.flatten).get? name =
      (context.flatten.get? name).or (Scope.builtins.get? name) := by
    cases bound : context.flatten.get? name <;> simp [get?, topDown, ofScope, bound, List.findSome?_cons]
    cases Scope.builtins.get? name <;> rfl
  rw [both, get?_flatten]
  cases bound : context.get? name with
  | some value => rfl
  | none =>
    -- The builtin names are bound in the stack as well.
    rw [get?, List.findSome?_eq_none_iff] at bound
    exact bound .builtins (by simp [topDown])

/-- One action on scopes above some others changes none of those, unless it takes the last scope above them away. -/
theorem act_above (base : Scope) (pushed : List Scope) {upper : List Scope} (last : Scope) {action : Action}
    (guarded : action.isPop → upper ≠ []) :
    ∃ upper' last', act ⟨base, upper ++ last :: pushed⟩ action = ⟨base, upper' ++ last' :: pushed⟩ ∧
      upper'.length + [action].countP Action.isPop = upper.length + [action].countP Action.isPush := by
  cases action with
  | push => exact ⟨.empty :: upper, last, rfl, rfl⟩
  | pop =>
    obtain ⟨top, upper', rfl⟩ := List.exists_cons_of_ne_nil (guarded rfl)
    exact ⟨upper', last, rfl, rfl⟩
  | set name value =>
    cases upper with
    | nil => exact ⟨[], last.insert name value, rfl, rfl⟩
    | cons top upper' => exact ⟨top.insert name value :: upper', last, rfl, rfl⟩

/-- Actions on scopes above some others that never come down to those leave them as they are. -/
theorem run_above (base : Scope) (pushed : List Scope) {upper : List Scope} (last : Scope) {actions : List Action}
    (guarded : ∀ front, front <+: actions →
      front.countP Action.isPop ≤ upper.length + front.countP Action.isPush) :
    ∃ upper' last', run ⟨base, upper ++ last :: pushed⟩ actions = ⟨base, upper' ++ last' :: pushed⟩ ∧
      upper'.length + actions.countP Action.isPop = upper.length + actions.countP Action.isPush := by
  induction actions generalizing upper last with
  | nil => exact ⟨upper, last, rfl, rfl⟩
  | cons action actions ih =>
    have some_ : action.isPop → upper ≠ [] := by
      rintro isPop rfl
      have first := guarded [action] (List.cons_prefix_cons.mpr ⟨rfl, List.nil_prefix⟩)
      cases action <;> simp_all [Action.isPop, Action.isPush]
    obtain ⟨middle, last', same, step⟩ := act_above base pushed last some_
    have guarded' (front : List Action) (starts : front <+: actions) :
        front.countP Action.isPop ≤ middle.length + front.countP Action.isPush := by
      have whole := guarded ([action] ++ front) (List.cons_prefix_cons.mpr ⟨rfl, starts⟩)
      rw [List.countP_append, List.countP_append] at whole
      omega
    obtain ⟨upper', last'', rest, level⟩ := ih last' guarded'
    refine ⟨upper', last'', ?_, ?_⟩
    · rw [← rest, ← same]
      rfl
    · rw [← List.singleton_append, List.countP_append, List.countP_append]
      omega

/-- A balanced run between a push and a pop leaves the context as it was. -/
theorem run_balanced (context : Context) {actions : List Action} (balanced : Balanced actions) :
    context.run (.push :: actions ++ [.pop]) = context := by
  obtain ⟨base, pushed⟩ := context
  have guarded (front : List Action) (starts : front <+: actions) :
      front.countP Action.isPop ≤ ([] : List Scope).length + front.countP Action.isPush := by
    simpa using balanced.guarded front starts
  obtain ⟨upper, last, same, level⟩ := run_above base pushed .empty guarded
  rw [balanced.level, Nat.add_right_cancel_iff, List.length_nil, List.length_eq_zero_iff] at level
  subst level
  have split : run ⟨base, pushed⟩ (.push :: actions ++ [.pop]) =
      act (run ⟨base, [] ++ .empty :: pushed⟩ actions) .pop := by
    simp [run, act, push]
  rw [split, same]
  rfl

theorem lawful (context : Context) : context.Lawful where
  bottom := rfl
  depth_eq := by simp [depth, bottomUp]
  two_le_depth := Nat.le_add_left 2 _
  pop_eq_none := by
    obtain ⟨base, pushed⟩ := context
    cases pushed with
    | nil => exact ⟨fun _ => rfl, fun _ => ⟨rfl, rfl⟩⟩
    | cons top pushed => simp [pop, depth]
  pop_eq_some top rest taken := by
    obtain ⟨base, pushed⟩ := context
    cases pushed with
    | nil => cases taken
    | cons top' pushed =>
      cases taken
      exact bottomUp_pushed _
  get?_flatten := context.get?_flatten
  contains name := by
    refine ⟨rfl, ?_⟩
    rw [contains, OrderedMap.contains, get?_flatten]
  nodup_keys := context.flatten.distinct
  mem_keys _ := Scope.mem_keys_merge
  ordered := Scope.merge_ordered context.bottomUp
  topmost _ _ := Scope.get?_merge_eq_some_iff
  restored _ := context.run_balanced

/-- A context that is used in any way keeps the builtin names at its bottom and a scope above them. Its scopes are those
of a bare stack with which the same is done; one scope can stand for all of them, with the place of each name from below
and its value from above; and what is done between a push and its pop leaves nothing behind. -/
theorem run_lawful (scope : Scope) (actions : List Action) :
    ((ofScope scope).run actions).bottomUp = actions.foldl Action.onStack [.builtins, scope] ∧
      ((ofScope scope).run actions).Lawful :=
  ⟨bottomUp_run _ actions, lawful _⟩

/-- A name that a higher scope binds again keeps its place. -/
example : (empty.run [.set "a" .none, .push, .set "b" .none, .set "True" .none, .set "a" .none]).flatten.keys =
    ["True", "False", "None", "a", "b"] := by decide +kernel

end Context

end Stencil
