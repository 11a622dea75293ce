import Stencil.Proofs.Failure
import Stencil.Proofs.Products
import Stencil.Proofs.Steps

/-! Texts that are repeated beyond what any memory holds: when a product asks for one, and when a render comes to such a
product. -/

set_option autoImplicit false

namespace Stencil

namespace Fixture

/-- The product of two values is a text of more bytes than any memory holds. -/
def TooLong (left right : Value) : Prop :=
  ∃ s n, Repeats s n left right ∧ 2 ^ 63 ≤ s.utf8ByteSize * n.toInt.toNat

/-- What a text repeated by a whole number comes to: its copies, with the bytes of each of them, if they fit, and no answer
at all if they do not. -/
structure Repetition (s : String) (n : Int64) (product : Except HostFailure Value) : Prop where
  copies (output : Value) : product = .ok output ↔
    s.utf8ByteSize * n.toInt.toNat < 2 ^ 63 ∧ output = .text (String.join (List.replicate n.toInt.toNat s))
  bytes : (String.join (List.replicate n.toInt.toNat s)).utf8ByteSize = s.utf8ByteSize * n.toInt.toNat
  failure (failure : HostFailure) : product = .error failure ↔
    2 ^ 63 ≤ s.utf8ByteSize * n.toInt.toNat ∧ failure = .exhausted

section
variable {left right : Value} {s : String} {n : Int64}

theorem Repeats.repetition (repeats : Repeats s n left right) : Repetition s n (multiply left right) := by
  rw [repeats.multiply_eq]
  by_cases fits : s.utf8ByteSize * n.toInt.toNat < 2 ^ 63
  · rw [if_pos fits]
    refine ⟨fun output => ⟨fun same => ?_, fun same => by rw [same.2]⟩, Value.utf8ByteSize_copies s _,
      fun _ => ⟨nofun, fun long => absurd fits (Nat.not_lt.mpr long.1)⟩⟩
    cases same
    exact ⟨fits, rfl⟩
  · rw [if_neg fits]
    refine ⟨fun _ => ⟨nofun, fun short => absurd short.1 fits⟩, Value.utf8ByteSize_copies s _,
      fun failure => ⟨fun same => ?_, fun same => by rw [same.2]⟩⟩
    cases same
    exact ⟨Nat.not_lt.mp fits, rfl⟩

theorem multiply_exhausted_iff : multiply left right = .error .exhausted ↔ TooLong left right := by
  constructor
  · intro failed
    have product := multiply_product left right
    rw [failed] at product
    cases product with
    | exhausted repeats long => exact ⟨_, _, repeats, long⟩
  · rintro ⟨s, n, repeats, long⟩
    exact (repeats.repetition.failure _).mpr ⟨long, rfl⟩

/-- A sample filter asks for too long a text exactly if it multiplies to one. -/
theorem apply_exhausted_iff {binding : Binding} (provided : libraries.catalog.Provides binding) {value : Value}
    {argument : Option Value} : binding.bound.filter.apply value argument = .error .exhausted ↔
      ∃ factor, factor? binding.bound.library binding.name value argument = some factor ∧ TooLong value factor := by
  obtain ⟨asked, library, found, same, entry⟩ := provided
  have act := acts (Libraries.mem_of_find? found) _ entry value argument
  rw [same]
  split at act
  next factor given =>
    rw [act, multiply_exhausted_iff]
    simp [given]
  next given => simp [given, act.2]

end

end Fixture

namespace Template

variable {context : Context} {settings : Settings}

theorem Path.Fails.ne_exhausted {path : Path} {error : RenderError} (fails : path.Fails context error) :
    error ≠ .exhausted := by
  cases fails <;> exact nofun

theorem Operand.resolve_ne_exhausted (operand : Operand) (context : Context) :
    (operand.resolve context).outcome ≠ .error .exhausted := by
  cases operand with
  | literal => exact nofun
  | path path => exact fun failed => (Path.resolve_eq_error_iff.mp failed).ne_exhausted rfl

theorem Operand.begin_ne_exhausted (operand : Operand) (context : Context) (settings : Settings) :
    (operand.begin context settings).outcome ≠ .error .exhausted := by
  intro failed
  unfold begin at failed
  split at failed
  next path _ =>
    have failed := orMissing_error (Evaluation.return_eq_error.mp failed)
    exact (Operand.path path).resolve_ne_exhausted context failed
  next => exact resolve_ne_exhausted _ context (Evaluation.return_eq_error.mp failed)

/-- Only a filter can ask for too long a text. -/
theorem perform_exhausted_iff {stage : Stage} {step : Step} :
    (perform context settings stage step).outcome = .error .exhausted ↔
      ∃ use value argument, step = .filter use ∧ stage = .reached value argument ∧
        use.filter.apply value argument = .error .exhausted := by
  have host {result : Except HostFailure Value} :
      (Evaluation.ofHost result).outcome = .error .exhausted ↔ result = .error .exhausted := by
    rcases result with (_ | _) | _ <;> simp [Evaluation.ofHost, Except.mapError, HostFailure.toRenderError]
  constructor
  · intro failed
    cases step with
    | base operand => exact absurd failed (operand.begin_ne_exhausted context settings)
    | argument operand =>
      cases stage with
      | reached => exact absurd (Evaluation.return_eq_error.mp failed) (operand.resolve_ne_exhausted context)
      | replaced => cases failed
    | filter use =>
      cases stage with
      | reached value argument =>
        exact ⟨use, value, argument, rfl, rfl, host.mp (Evaluation.return_eq_error.mp failed)⟩
      | replaced => cases failed
  · rintro ⟨use, value, argument, rfl, rfl, asked⟩
    exact Evaluation.return_eq_error.mpr (host.mpr asked)

theorem mem_steps {template : Template} {use : FilterUse} (member : .filter use ∈ template.steps) :
    ∃ e span, .variable e span ∈ template.nodes ∧ use ∈ e.filters := by
  obtain ⟨node, among, member⟩ := List.mem_flatMap.mp member
  cases node with
  | text | load => cases member
  | «variable» e span =>
    refine ⟨e, span, among, ?_⟩
    obtain ⟨other, filters, member⟩ := List.mem_flatMap.mp ((List.mem_cons.mp member).resolve_left nofun)
    rcases List.mem_append.mp member with argument | same
    · obtain ⟨operand, -, same⟩ := List.mem_map.mp argument
      cases same
    · cases List.mem_singleton.mp same
      exact filters

/-- A filter of the template comes to multiply to too long a text: all steps before it succeed. -/
inductive Exhausts (context : Context) (settings : Settings) (template : Template) : Prop
  | intro {before after : List Step} {use : FilterUse} {operands : List Operand} {value factor : Value}
      {argument : Option Value} : template.steps = before ++ .filter use :: after →
      Passes context settings .start before operands (.reached value argument) →
      Fixture.factor? use.library use.name value argument = some factor → Fixture.TooLong value factor →
      Exhausts context settings template

theorem render_exhausted_iff {template : Template}
    (provided : ∀ e span, .variable e span ∈ template.nodes → ∀ use ∈ e.filters,
      Fixture.libraries.catalog.Provides ⟨use.name, use.filter, use.library⟩) :
    (template.render context settings).outcome = .error .exhausted ↔ Exhausts context settings template := by
  have applied {use : FilterUse} (member : .filter use ∈ template.steps) (value : Value) (argument : Option Value) :
      use.filter.apply value argument = .error .exhausted ↔ ∃ factor,
        Fixture.factor? use.library use.name value argument = some factor ∧ Fixture.TooLong value factor := by
    obtain ⟨e, span, among, used⟩ := mem_steps member
    exact Fixture.apply_exhausted_iff (provided e span among use used)
  constructor
  · intro failed
    rcases passes_or_fails context settings .start template.steps with ⟨operands, last, passes⟩ | ⟨operands, error, failure⟩
    · obtain ⟨text, done⟩ := (render_of_passes passes).2
      cases failed.symm.trans done
    · rw [render_of_failure failure] at failed
      cases failed
      obtain ⟨split, passes, failed⟩ := failure
      obtain ⟨use, value, argument, rfl, rfl, asked⟩ := perform_exhausted_iff.mp failed
      have member : .filter use ∈ template.steps := split ▸ List.mem_append_right _ List.mem_cons_self
      obtain ⟨factor, given, long⟩ := (applied member value argument).mp asked
      exact ⟨split, passes, given, long⟩
  · rintro ⟨split, passes, given, long⟩
    have member := split ▸ List.mem_append_right _ List.mem_cons_self
    have asked := (applied member _ _).mpr ⟨_, given, long⟩
    rw [render_of_failure (.intro split passes (perform_exhausted_iff.mpr ⟨_, _, _, rfl, rfl, asked⟩))]

end Template

/-- A text repeated by a whole number, from either side, has its copies as the product if they fit in memory, and else the
product gives no answer, so no error of the host either. A render over the sample filters ends so exactly if one of them
comes to such a product. -/
theorem Engine.render_repeats (settings : Settings) {source : String} {template : Template}
    (read : (Engine.mk settings Fixture.libraries.catalog).parse source = .ok template) (context : Context) :
    (∀ {left right : Value} {s : String} {n : Int64}, Fixture.Repeats s n left right →
      Fixture.Repetition s n (Fixture.multiply left right)) ∧
    (((Engine.mk settings Fixture.libraries.catalog).render template context).outcome = .error .exhausted ↔
      Template.Exhausts context settings template) :=
  ⟨fun repeats => repeats.repetition,
    Template.render_exhausted_iff fun _ _ member => Template.parse_provided read member⟩

/-- Three copies of a text, and a template that asks for more copies than there is memory. -/
theorem Engine.render_repeats_beyond :
    let settings : Settings := { builtins := ["custom_filters"] }
    let engine : Engine := ⟨settings, Fixture.libraries.catalog⟩
    let source := "\x7b\x7b 'ab'|multiply:9223372036854775807 \x7d\x7d"
    Fixture.Repeats "ab" 3 (.integer 3) (.text "ab") ∧
      Fixture.multiply (.integer 3) (.text "ab") = .ok (.text "ababab") ∧
      ∃ template, engine.parse source = .ok template ∧
        (engine.render template .empty).outcome = .error .exhausted ∧ Template.Exhausts .empty settings template := by
  intro settings engine source
  have done : (engine.parse source).toOption.map (fun template => (engine.render template .empty).outcome) =
      some (.error .exhausted) := by decide +kernel
  obtain ⟨template, parsed, failed⟩ := Option.map_eq_some_iff.mp done
  have read : engine.parse source = .ok template := Outcome.of_toOption parsed
  obtain ⟨repetition, exhausts⟩ := Engine.render_repeats settings read .empty
  have repeats : Fixture.Repeats "ab" 3 (.integer 3) (.text "ab") := .countFirst rfl
  have copies : String.join (List.replicate (3 : Int64).toInt.toNat "ab") = "ababab" := by decide
  refine ⟨repeats, ?_, template, read, failed, exhausts.mp failed⟩
  exact ((repetition repeats).copies _).mpr ⟨by decide, by rw [copies]⟩

/-- A text of two bytes as often as a 64-bit count can tell is too long, and no error of the host says so. -/
theorem Fixture.multiply_beyond_memory :
    let product := multiply (.text "ab") (.integer 9223372036854775807)
    2 ^ 63 ≤ "ab".utf8ByteSize * (9223372036854775807 : Int64).toInt.toNat ∧ product = .error .exhausted ∧
      ∀ error, product ≠ .error (.raised error) := by
  intro product
  have long : 2 ^ 63 ≤ "ab".utf8ByteSize * (9223372036854775807 : Int64).toInt.toNat := by decide
  have exhausted : product = .error .exhausted := multiply_exhausted_iff.mpr ⟨"ab", _, .textFirst rfl, long⟩
  exact ⟨long, exhausted, fun error => by rw [exhausted]; exact nofun⟩

end Stencil
