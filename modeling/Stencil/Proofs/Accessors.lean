import Stencil.Proofs.Lookups
import Stencil.Proofs.Marking

/-! Accessors that are called while operands are resolved: a name is looked up on an object where the names before it
lead there, and an article is asked for its summary as often as that name is looked up on it. -/

set_option autoImplicit false

namespace Stencil

/-- The first of some names lead to an object, and the next is looked up on it. -/
def LooksUp (leads : List String → Value → Prop) (names : List String) (identity : Nat) (name : String) : Prop :=
  ∃ before after object, names = before ++ name :: after ∧ leads before (.object object) ∧ object.identity = identity

/-- The identity is that of an article: no other object that names lead to has it. -/
def OfArticle (leads : List String → Value → Prop) (identity : Nat) : Prop :=
  ∀ names object, leads names (.object object) → object.identity = identity →
    ∃ title tags, object = Fixture.article identity title tags

section
variable {identity : Nat} {name first : String} {names : List String} {current middle : Value}

theorem not_looksUp_nil {leads : List String → Value → Prop} : ¬LooksUp leads [] identity name := by
  rintro ⟨before, after, object, split, -⟩
  cases before <;> cases split

theorem Context.looksUp_cons {context : Context} : LooksUp context.Leads (first :: names) identity name ↔
    ∃ value, context.get? first = some value ∧ LooksUp value.Leads names identity name := by
  constructor
  · rintro ⟨before, after, object, split, leads, same⟩
    cases before with
    | nil => exact leads.elim
    | cons _ before =>
      cases split
      obtain ⟨value, bound, leads⟩ := leads
      exact ⟨value, bound, before, after, object, rfl, leads, same⟩
  · rintro ⟨value, bound, before, after, object, rfl, leads, same⟩
    exact ⟨first :: before, after, object, rfl, ⟨value, bound, leads⟩, same⟩

theorem Value.looksUp_cons : LooksUp current.Leads (first :: names) identity name ↔
    (first = name ∧ ∃ object, current = .object object ∧ object.identity = identity) ∨
      ∃ found next, current.Finds first found ∧ found.resolve = .ok next ∧ LooksUp next.Leads names identity name := by
  constructor
  · rintro ⟨before, after, object, split, leads, same⟩
    cases leads with
    | here =>
      cases split
      exact Or.inl ⟨rfl, object, rfl, same⟩
    | @next _ middle _ _ before found finds resolved leads =>
      cases split
      exact Or.inr ⟨found, middle, finds, resolved, before, after, object, rfl, leads, same⟩
  · rintro (⟨rfl, object, rfl, same⟩ | ⟨found, middle, finds, resolved, before, after, object, rfl, leads, same⟩)
    · exact ⟨[], names, object, rfl, .here, same⟩
    · exact ⟨first :: before, after, object, rfl, .next finds resolved leads, same⟩

theorem OfArticle.next {found : Attribute Value} (article : OfArticle current.Leads identity)
    (finds : current.Finds first found) (resolved : found.resolve = .ok middle) : OfArticle middle.Leads identity :=
  fun names object leads => article (first :: names) object (.next finds resolved leads)

theorem OfArticle.get? {context : Context} (article : OfArticle context.Leads identity)
    (bound : context.get? first = some current) : OfArticle current.Leads identity :=
  fun names object leads => article (first :: names) object ⟨current, bound, leads⟩

/-- Plain values hold no objects but articles. -/
theorem Context.Plain.ofArticle {context : Context} (plain : context.Plain) (identity : Nat) :
    OfArticle context.Leads identity := by
  intro names object leads same
  cases names with
  | nil => exact leads.elim
  | cons name names =>
    obtain ⟨value, bound, leads⟩ := leads
    cases (plain.get? bound).leads leads with
    | @article other title tags => exact ⟨title, tags, same ▸ rfl⟩

theorem OfArticle.summary {object : HostObject Value} (article : OfArticle (Value.object object).Leads object.identity) :
    ∃ text, object.member? "summary" = some (.accessor (.ok (.text text))) := by
  obtain ⟨title, tags, same⟩ := article [] object .here rfl
  exact ⟨_, congrArg (·.member? "summary") same⟩

/-- Text leads to characters only. -/
theorem Value.Leads.of_text {s : String} {last : Value} (leads : (Value.text s).Leads names last) :
    ∃ t, last = .text t := by
  induction names generalizing s with
  | nil =>
    cases leads
    exact ⟨s, rfl⟩
  | cons name names ih =>
    cases leads with
    | next finds resolved leads =>
      cases finds
      cases resolved
      exact ih leads

theorem Value.not_looksUp_text {s : String} : ¬LooksUp (Value.text s).Leads names identity name := by
  rintro ⟨before, after, object, -, leads, -⟩
  obtain ⟨t, same⟩ := leads.of_text
  cases same

theorem Value.mem_look : ⟨.object identity, name⟩ ∈ (current.look first).lookups ↔
    first = name ∧ ∃ object, current = .object object ∧ object.identity = identity := by
  cases current <;> simp [look, place?, and_comm, eq_comm]

theorem Attribute.mem_calls_evaluate {found : Attribute Value} {call : Call}
    (member : call ∈ (found.evaluate current first).calls) :
    first = call.accessor ∧ ∃ object, current = .object object ∧ object.identity = call.object := by
  cases found with
  | value => cases member
  | accessor =>
    cases current with
    | object object =>
      rw [List.mem_singleton.mp member]
      exact ⟨rfl, object, rfl, rfl⟩
    | _ => cases member

end

namespace Template

section
variable {context : Context} {identity : Nat} {name : String} {path : Path} {index : Nat} {current : Value}
  {segment : Segment} {rest : List Segment}

theorem Path.mem_traceFollow : ⟨.object identity, name⟩ ∈ (path.traceFollow index current rest).lookups ↔
    LooksUp current.Leads (rest.map (·.name)) identity name := by
  induction rest generalizing index current with
  | nil => exact ⟨nofun, fun looked => absurd looked not_looksUp_nil⟩
  | cons segment rest ih =>
    have looked : (current.look segment.name).evaluation.outcome = .ok (current.attribute? segment.name) := rfl
    rw [traceFollow, Traced.mem_lookups_bind, Value.mem_look, looked, List.map_cons, Value.looksUp_cons]
    -- The first name is looked up here; the others are on the value that it gives, if it gives one.
    refine or_congr Iff.rfl ?_
    cases has : current.attribute? segment.name with
    | none =>
      have absent := Value.attribute?_eq_none_iff.mp has
      simp [absent, Traced.silent]
    | some found =>
      have same (other : Attribute Value) : current.Finds segment.name other ↔ other = found := by
        rw [← Value.attribute?_eq_some_iff, has, Option.some.injEq, eq_comm]
      have evaluated (next : Value) : (found.evaluate current segment.name).outcome = .ok next ↔
          found.resolve = .ok next := by
        rw [Attribute.evaluate_outcome]
        cases found.resolve <;> simp [Except.mapError]
      simp only [same, Except.ok.injEq, exists_eq_left', exists_and_left, exists_eq_left,
        Traced.mem_lookups_bind, ih, Traced.silent, List.not_mem_nil, false_or, evaluated]

theorem Operand.mem_trace (operand : Operand) : ⟨.object identity, name⟩ ∈ (operand.trace context).lookups ↔
    LooksUp context.Leads operand.names identity name := by
  have nothing : ⟨.object identity, name⟩ ∈ ([] : List Lookup) ↔ LooksUp context.Leads [] identity name :=
    iff_of_false List.not_mem_nil not_looksUp_nil
  cases operand with
  | literal => exact nothing
  | path path =>
    rw [trace, Path.trace, names]
    cases path.segments with
    | nil => exact nothing
    | cons first rest =>
      have looked : (context.look first.name).evaluation.outcome = .ok (context.get? first.name) := rfl
      have elsewhere : (⟨.object identity, name⟩ : Lookup) ∉ (context.look first.name).lookups := by
        simp [Context.look]
      rw [List.map_cons, Context.looksUp_cons]
      dsimp only
      rw [Traced.mem_lookups_bind, looked]
      simp only [elsewhere, false_or, Except.ok.injEq, exists_eq_left']
      cases context.get? first.name with
      | none => simp [Traced.silent]
      | some value => simp [Path.mem_traceFollow]

end

/-- The operand looks a name up on an object. -/
def Operand.LooksUp (context : Context) (identity : Nat) (name : String) (operand : Operand) : Prop :=
  Stencil.LooksUp context.Leads operand.names identity name

instance (context : Context) (identity : Nat) (name : String) : DecidablePred (Operand.LooksUp context identity name) :=
  fun operand => decidable_of_iff (⟨.object identity, name⟩ ∈ (operand.trace context).lookups) operand.mem_trace

section
variable {context : Context} {identity : Nat} {path : Path} {index : Nat} {current : Value} {segment : Segment}
  {rest : List Segment}

theorem Path.calls_follow (path : Path) (index : Nat) {found : Attribute Value} {next : Value}
    (finds : current.Finds segment.name found) (resolved : found.resolve = .ok next) :
    (path.follow index current (segment :: rest)).calls =
      (found.evaluate current segment.name).calls ++ (path.follow (index + 1) next rest).calls := by
  have evaluated : (found.evaluate current segment.name).outcome = .ok next := by
    rw [Attribute.evaluate_outcome, resolved]
    rfl
  rw [follow]
  simp only [Value.attribute?_eq_some_iff.mpr finds, Evaluation.bind_ok evaluated]

theorem Path.calls_follow_of_error (path : Path) (index : Nat) {found : Attribute Value} {error : HostError}
    (finds : current.Finds segment.name found) (resolved : found.resolve = .error error) :
    (path.follow index current (segment :: rest)).calls = (found.evaluate current segment.name).calls := by
  have evaluated : (found.evaluate current segment.name).outcome = .error (.host error) := by
    rw [Attribute.evaluate_outcome, resolved]
    rfl
  rw [follow]
  simp only [Value.attribute?_eq_some_iff.mpr finds, Evaluation.bind_error evaluated]

/-- Only a name that is looked up on an object is called on it. -/
theorem Path.looksUp_of_call {call : Call} (member : call ∈ (path.follow index current rest).calls) :
    LooksUp current.Leads (rest.map (·.name)) call.object call.accessor := by
  induction rest generalizing index current with
  | nil => cases member
  | cons segment rest ih =>
    rw [List.map_cons, Value.looksUp_cons]
    cases has : current.attribute? segment.name with
    | none =>
      simp only [follow, has] at member
      cases member
    | some found =>
      have finds := Value.attribute?_eq_some_iff.mp has
      cases resolved : found.resolve with
      | error error =>
        rw [calls_follow_of_error path index finds resolved] at member
        exact Or.inl (Attribute.mem_calls_evaluate member)
      | ok next =>
        rw [calls_follow path index finds resolved] at member
        rcases List.mem_append.mp member with here | later
        · exact Or.inl (Attribute.mem_calls_evaluate here)
        · exact Or.inr ⟨found, next, finds, resolved, ih later⟩

/-- An article is asked once for a summary that is looked up on it: what it gives is text, on which no more is
looked up. -/
theorem Path.count_follow (article : OfArticle current.Leads identity)
    (looked : LooksUp current.Leads (rest.map (·.name)) identity "summary") :
    (path.follow index current rest).calls.count ⟨identity, "summary"⟩ = 1 := by
  induction rest generalizing index current with
  | nil => exact absurd looked not_looksUp_nil
  | cons segment rest ih =>
    obtain ⟨name, span⟩ := segment
    rcases Value.looksUp_cons.mp looked with ⟨rfl, object, rfl, rfl⟩ | ⟨found, next, finds, resolved, later⟩
    · obtain ⟨text, summary⟩ := article.summary
      have silent : ⟨object.identity, "summary"⟩ ∉ (path.follow (index + 1) (.text text) rest).calls :=
        fun call => Value.not_looksUp_text (looksUp_of_call call)
      rw [calls_follow path index (.member summary) rfl, List.count_append, List.count_eq_zero.mpr silent]
      exact List.count_singleton_self
    · -- A summary called here would be text, and nothing later would be looked up on an article.
      have silent : ⟨identity, "summary"⟩ ∉ (found.evaluate current name).calls := by
        intro call
        obtain ⟨rfl, object, rfl, rfl⟩ := Attribute.mem_calls_evaluate call
        obtain ⟨text, summary⟩ := article.summary
        cases finds with
        | member member =>
          cases member.symm.trans summary
          cases resolved
          exact Value.not_looksUp_text later
      rw [calls_follow path index finds resolved, List.count_append, ih (article.next finds resolved) later,
        List.count_eq_zero.mpr silent]

theorem Path.resolve_of_bound {first : Segment} (bound : context.get? first.name = some current)
    (split : path.segments = first :: rest) : path.resolve context = path.follow 0 current rest := by
  simp only [resolve, split, bound]

theorem Path.looksUp_of_call_resolve {call : Call} (member : call ∈ (path.resolve context).calls) :
    LooksUp context.Leads (path.segments.map (·.name)) call.object call.accessor := by
  cases split : path.segments with
  | nil =>
    simp only [resolve, split] at member
    cases member
  | cons first rest =>
    rw [List.map_cons, Context.looksUp_cons]
    cases bound : context.get? first.name with
    | none =>
      simp only [resolve, split, bound] at member
      cases member
    | some value =>
      rw [resolve_of_bound bound split] at member
      exact ⟨value, rfl, looksUp_of_call member⟩

/-- An operand asks an article for its summary once if it looks the summary up, and else not. -/
theorem Operand.count_resolve (operand : Operand) (article : OfArticle context.Leads identity) :
    (operand.resolve context).calls.count ⟨identity, "summary"⟩ =
      if operand.LooksUp context identity "summary" then 1 else 0 := by
  cases operand with
  | literal => exact (if_neg (show ¬Stencil.LooksUp context.Leads [] identity "summary" from not_looksUp_nil)).symm
  | path path =>
    split
    next looked =>
      have looked : Stencil.LooksUp context.Leads (path.segments.map (·.name)) identity "summary" := looked
      cases split : path.segments with
      | nil =>
        rw [split] at looked
        exact absurd looked not_looksUp_nil
      | cons first rest =>
        rw [split, List.map_cons, Context.looksUp_cons] at looked
        obtain ⟨value, bound, looked⟩ := looked
        rw [resolve, Path.resolve_of_bound bound split]
        exact Path.count_follow (article.get? bound) looked
    next unlooked => exact List.count_eq_zero.mpr fun call => unlooked (Path.looksUp_of_call_resolve call)

end

end Template

end Stencil
