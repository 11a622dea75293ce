import Stencil.Fixture.Filters
import Stencil.Proofs.Labels
import Stencil.Proofs.Reports

/-! Reports about errors of the engine: every one tells where its first label starts, as long as line ends are counted
alike in the report and in its source. -/

set_option autoImplicit false

namespace Stencil

open Excerpt (OnLine)
open Text (byteLength Paired StandsAt)

namespace Template

variable {catalog : Catalog} {builtins : List String} {source : String} {error : ParseError}

theorem ParseError.Located.reads (located : error.Located source) : ∃ text, error.span.Reads source text := by
  cases error with
  | emptyVariable => exact ⟨_, located.2.choose_spec.2⟩
  | emptyTag => exact ⟨_, located.2.choose_spec.2⟩
  | unknownTag => exact ⟨_, located.2⟩
  | filterArity => exact ⟨_, located.choose_spec.2.2⟩
  | _ => exact ⟨_, located⟩

theorem parse_onLine (paired : Paired source.toList) (some_ : source.toList ≠ [])
    (failed : parse catalog builtins source = .error error) :
    ∃ ends, OnLine source.toList ends error.span.start error.span.length := by
  have inside : error.span.start + error.span.length ≤ byteLength source.toList := by
    rcases parse_error_located failed with ⟨_, _, _, _, rfl⟩ | located
    · exact Nat.zero_le _
    · obtain ⟨text, reads⟩ := located.reads
      have ordered := reads.ordered
      have bound := reads.inBounds
      rw [← Text.byteLength_toList] at bound
      rw [Span.length]
      omega
  rcases parse_starts failed with first | ⟨c, other, before, after, split, start⟩
  · -- The place of a builtin library is the start of the source, where no return stands before.
    obtain ⟨c, cs, whole⟩ := List.exists_cons_of_ne_nil some_
    exact ⟨0, [], c, cs, whole, by rw [first]; rfl, rfl, by decide, inside⟩
  · rw [List.append_assoc] at split
    exact ⟨_, before, c, after, split, start, rfl, Paired.not_return (split ▸ paired) other, inside⟩

end Template

namespace Engine

/-- An error of reading a source, or of a render of the template read from it. -/
inductive Raises (engine : Engine) (source : String) : TemplateError → Prop
  | parse {error : Template.ParseError} : engine.parse source = .error error → Raises engine source (.parse error)
  | render {template : Template} {context : Context} {error : RenderError} : engine.parse source = .ok template →
      (engine.render template context).outcome = .error error → Raises engine source (.render error)

variable {engine : Engine} {source : String} {error : TemplateError} {diagnostic : Diagnostic}

/-- All labels of an error start on one line of the source, each at one of its characters. -/
theorem Raises.on_line (raised : engine.Raises source error) (reported : error.diagnostic? source = some diagnostic)
    (paired : Paired source.toList) (some_ : source.toList ≠ []) : diagnostic.source = source ∧ diagnostic.labels ≠ [] ∧
      ∃ ends, ∀ label ∈ diagnostic.labels, OnLine source.toList ends label.span.start label.span.length := by
  cases raised with
  | parse failed =>
    cases reported
    obtain ⟨ends, on⟩ := Template.parse_onLine paired some_ failed
    exact ⟨rfl, List.cons_ne_nil _ _, ends, List.forall_mem_singleton.mpr on⟩
  | @render template context error read failed =>
    cases error with
    | host => cases reported
    | exhausted => cases reported
    | missing key object keySpan objectSpan =>
      cases reported
      obtain ⟨path, member, failed⟩ := Template.render_missing failed
      obtain ⟨text, position, readAt, more⟩ := Template.parse_operand read member
      obtain ⟨rfl, variable_⟩ := readAt.path
      have blamed := Template.Path.blamed readAt.stands (Template.Path.resolve_eq_error_iff.mp failed)
      exact ⟨rfl, List.cons_ne_nil _ _, blamed.on_line paired readAt.stands more variable_⟩

/-- No advice shows a corner of an excerpt. -/
theorem corner_not_mem_help (reported : error.diagnostic? source = some diagnostic) :
    ∀ help ∈ diagnostic.help, '╭' ∉ help.toList := by
  cases error with
  | parse error =>
    cases reported
    cases error with
    | unknownFilter =>
      rintro help ⟨⟩
      decide
    | _ => exact nofun
  | render error =>
    cases error with
    | missing => cases reported; exact nofun
    | host => cases reported
    | exhausted => cases reported

/-- Where every carriage return has its line feed, a report that shows any of the source tells where its first label
starts, and numbers the line on which that is. -/
theorem report_located (formatter : Formatter) (raised : engine.Raises source error)
    (reported : error.diagnostic? source = some diagnostic) (some_ : source ≠ "") (paired : Paired source.toList)
    (shown : ∀ label ∈ diagnostic.labels, 0 < formatter.contextLines ∨ label.span.start < label.span.stop) :
    ∃ label margin above below, formatter.Locates diagnostic label margin above below := by
  obtain ⟨rfl, labels, ends, on⟩ := raised.on_line reported paired (by simpa using some_)
  exact Formatter.report_locates paired labels on
    (fun label member => (shown label member).imp_right Nat.sub_pos_of_lt) (corner_not_mem_help reported)

/-- An empty name at the end of a path, on a second line: the excerpt is located at the path. -/
theorem report_located_at_path :
    let engine : Engine := ⟨{ builtins := ["custom_filters"] }, Fixture.libraries.catalog⟩
    let source := "é\r\n\x7b\x7b 'x'|cut:a.b. \x7d\x7d"
    let error : TemplateError := .render (.missing "" "[]" ⟨19, 19⟩ (some ⟨15, 18⟩))
    engine.Raises source error ∧ Paired source.toList ∧ ∃ diagnostic, error.diagnostic? source = some diagnostic ∧
      ∃ label margin above below, engine.formatter.Locates diagnostic label margin above below ∧
        label.span.lineColumn source = (2, 12) := by
  intro engine source error
  have done : ((engine.parse source).toOption.map fun template =>
      (engine.render template (.ofScope (.ofPairs [("a", .dict [("b", .list [])])]))).outcome) =
        some (.error (.missing "" "[]" ⟨19, 19⟩ (some ⟨15, 18⟩))) := by decide +kernel
  have raised : engine.Raises source error := by
    obtain ⟨template, parsed, failed⟩ := Option.map_eq_some_iff.mp done
    exact .render (Outcome.of_toOption parsed) failed
  have paired : Paired source.toList := by decide
  obtain ⟨label, margin, above, below, located⟩ :=
    Engine.report_located engine.formatter raised rfl (by decide) paired fun _ _ => Or.inl (by decide)
  refine ⟨raised, paired, _, rfl, label, margin, above, below, located, ?_⟩
  obtain ⟨among, first⟩ := located.first
  rcases List.mem_cons.mp among with rfl | among
  · exact absurd (first ⟨⟨15, 18⟩, "[]", false⟩ (by decide)) (by decide)
  · rw [List.mem_singleton.mp among]
    decide

/-- No line of an empty source is shown, and bare returns end lines above an excerpt though not in positions: both leave
an upper border bare. -/
theorem report_bare :
    (∃ engine : Engine, ∃ error, engine.Raises "" (.parse error) ∧
      ∃ line ∈ Text.splitOn '\n' (engine.formatter.report (error.diagnostic "")).toList,
        Formatter.isHeader line = true) ∧
    ∃ engine : Engine, ∃ error, engine.Raises "a\rb\r\x7b\x7b x|nope \x7d\x7d" (.parse error) ∧
      ∃ line ∈ Text.splitOn '\n' (engine.formatter.report (error.diagnostic "a\rb\r\x7b\x7b x|nope \x7d\x7d")).toList,
        Formatter.isHeader line = true := by
  have fails {engine : Engine} {source : String} {error : Template.ParseError}
      (done : (engine.parse source).map (fun _ => ()) = .error error) : engine.Raises source (.parse error) := by
    refine .parse ?_
    cases outcome : engine.parse source with
    | ok template => rw [outcome] at done; cases done
    | error other => rw [outcome] at done; cases done; rfl
  constructor
  · refine ⟨⟨{ builtins := ["zzz"] }, Libraries.catalog OrderedMap.empty⟩, .unknownLibrary "zzz" [] ⟨0, 0⟩, fails ?_,
      "   ╭────".toList, ?_, by decide⟩
    · decide +kernel
    · decide +kernel
  · refine ⟨⟨{}, Fixture.libraries.catalog⟩, .unknownFilter "nope" ⟨9, 13⟩, fails ?_, "   ╭────".toList, ?_, by decide⟩
    · decide +kernel
    · decide +kernel

end Engine

end Stencil
