import Stencil.Engine
import Stencil.Fixture.Filters
import Stencil.Proofs.Failure
import Stencil.Proofs.Traversal

/-! What the report of a missing name points at: the name, and the names before it, which lead to the value that it
was looked up in. -/

set_option autoImplicit false

namespace Stencil

namespace Template

open Text (byteLength StandsAt splitOn)

/-- The labels of a missing name of a path. A first name stands alone: no scope binds it. A later name stands one
point behind the names before it, which resolve to a value that has nothing under the name. -/
inductive Path.Blamed (source : String) (context : Context) (path : Path) (key object : String) : List Label → Prop
  | first {segment : Segment} {rest : List Segment} : path.segments = segment :: rest → segment.name = key →
      segment.span.start = path.span.start → (∀ scope ∈ context.topDown, scope.get? key = none) →
      object = context.repr → Blamed source context path key object [⟨segment.span, "key", true⟩]
  | later {before after : List Segment} {segment : Segment} {front : Span} {value : Value} :
      path.segments = before ++ segment :: after → before ≠ [] → segment.name = key →
      front.start = path.span.start → front.slice? source = some (".".intercalate (before.map (·.name))) →
      front.stop + 1 = segment.span.start → (⟨front.stop, segment.span.start⟩ : Span).slice? source = some "." →
      (∀ offset, ((Path.ofText (".".intercalate (before.map (·.name))).toList offset).resolve context).outcome =
        .ok value) → object = value.reprText → value.lookup key = .ok none →
      Blamed source context path key object [⟨segment.span, "key", true⟩, ⟨front, object, false⟩]

section
variable {source : String} {text : List Char} {position : Nat} {context : Context} {value : Value}
  {before after : List Segment}

theorem Path.names_of_split (split : (Path.ofText text position).segments = before ++ after) :
    before.map (·.name) = ((splitOn '.' text).take before.length).map String.ofList := by
  have names := layOut_names position ((splitOn '.' text).map String.ofList)
  have segments : Path.layOut position ((splitOn '.' text).map String.ofList) = before ++ after := split
  rw [segments, List.map_append] at names
  rw [List.map_take, ← names, List.take_left' (List.length_map _)]

/-- The names at the front of a path are themselves a path, which resolves to what they lead to. -/
theorem Path.resolve_front (split : (Path.ofText text position).segments = before ++ after)
    (leads : context.Leads (before.map (·.name)) value) (offset : Nat) :
    ((Path.ofText (".".intercalate (before.map (·.name))).toList offset).resolve context).outcome = .ok value := by
  have names := names_of_split split
  have clean : ∀ piece ∈ (splitOn '.' text).take before.length, '.' ∉ piece :=
    fun piece member => Text.not_mem_of_mem_splitOn (List.mem_of_mem_take member)
  have some_ : (splitOn '.' text).take before.length ≠ [] := by
    intro none
    rw [none] at names
    rw [names] at leads
    exact leads.elim
  apply resolve_of_leads
  rw [Path.ofText, layOut_names, names, intercalate_ofList, String.toList_ofList, Text.splitOn_eq,
    List.splitOn_intercalate '.' clean some_, ← names]
  exact leads

theorem Path.front_reads (stands : StandsAt source.toList position text) {last : Segment}
    (split : (Path.ofText text position).segments = before ++ last :: after) :
    (⟨position, last.span.stop⟩ : Span).Reads source (".".intercalate ((before ++ [last]).map (·.name))) := by
  have reads := prefixSpan_reads stands before.length
  rwa [prefixSpan_of_split split, split, List.append_cons,
    List.take_left' (by rw [List.length_append, List.length_singleton])] at reads

/-- A later name stands one point behind the names before it. -/
theorem Path.name_behind (stands : StandsAt source.toList position text) {last segment : Segment}
    (split : (Path.ofText text position).segments = before ++ last :: segment :: after) :
    last.span.stop + 1 = segment.span.start ∧
      (⟨last.span.stop, segment.span.start⟩ : Span).slice? source = some "." := by
  have longer : (Path.ofText text position).segments = (before ++ [last]) ++ segment :: after := by rw [split]; simp
  obtain ⟨-, stop⟩ := (front_reads stands split).standsAt
  obtain ⟨whole, wholeStop⟩ := (front_reads stands longer).standsAt
  have name := layOut_located (by rwa [Text.intercalate_splitOn]) segment
    (show segment ∈ (Path.ofText text position).segments by rw [split]; simp)
  obtain ⟨-, nameStop⟩ := name.standsAt
  -- The names up to this one are those before it, a point and the name.
  rw [List.map_append, String.intercalate_append_of_ne_nil (by simp) (by simp), List.map_singleton,
    String.intercalate_singleton, String.toList_append, String.toList_append] at whole wholeStop
  have behind : last.span.stop + 1 = segment.span.start := by
    have point : byteLength ".".toList = 1 := rfl
    simp only [Text.byteLength_append, point] at wholeStop
    simp only at stop
    omega
  have reads := Span.reads_of_standsAt whole.left.right
  simp only at stop
  rw [← stop, show last.span.stop + byteLength ".".toList = segment.span.start from behind,
    String.ofList_toList] at reads
  exact ⟨behind, reads.slice⟩

/-- Every label covers a text, and the first covers the key. -/
theorem Path.Blamed.covers {path : Path} {key object : String} {labels : List Label}
    (blamed : path.Blamed source context key object labels)
    (located : ∀ segment ∈ path.segments, segment.span.Reads source segment.name) :
    (labels.filterMap (·.span.slice? source)).length = labels.length ∧
      (labels.filterMap (·.span.slice? source)).head? = some key := by
  cases blamed with
  | @first segment rest split named =>
    have covered := (located segment (by rw [split]; simp)).slice
    simp [covered, named]
  | @later before after segment front value split _ named _ whole =>
    have covered := (located segment (by rw [split]; simp)).slice
    simp [covered, named, whole]

/-- How a path that was read from the source fails to resolve is told by labels that cover names of the path. -/
theorem Path.blamed {key object : String} {keySpan : Span} {objectSpan : Option Span}
    (stands : StandsAt source.toList position text)
    (fails : (Path.ofText text position).Fails context (.missing key object keySpan objectSpan)) :
    (Path.ofText text position).Blamed source context key object
      (RenderError.missing key object keySpan objectSpan).labels := by
  have start : (Path.ofText text position).span.start = position := rfl
  cases fails with
  | nameless none => exact absurd none (ofText_segments_ne_nil text position)
  | @unbound first rest split unbound =>
    refine .first split rfl ?_ ?_ rfl
    · have segments : Path.layOut position ((splitOn '.' text).map String.ofList) = first :: rest := split
      cases pieces : splitOn '.' text with
      | nil => exact absurd pieces (Text.splitOn_ne_nil '.' text)
      | cons piece pieces' =>
        rw [pieces, List.map_cons, Path.layOut] at segments
        rw [← (List.cons.inj segments).1]
        rfl
    · rw [Context.get?, List.findSome?_eq_none_iff] at unbound
      exact unbound
  | @absent before after last segment value split leads absent =>
    have longer : (Path.ofText text position).segments = (before ++ [last]) ++ segment :: after := by
      rw [split]; simp
    obtain ⟨behind, point⟩ := name_behind stands split
    refine .later longer (by simp) rfl rfl (front_reads stands split).slice behind point
      (resolve_front longer leads) rfl ?_
    rw [Value.lookup, Value.attribute?_eq_none_iff.mpr absent]

end

end Template

/-- A render fails with a missing name only where one is missing: the report covers a name of a path of the template,
and tells what it was looked up in and, behind other names, where that comes from. -/
theorem Engine.missing_blamed (engine : Engine) {source : String} {template : Template}
    (read : engine.parse source = .ok template) {context : Context} {key object : String} {keySpan : Span}
    {objectSpan : Option Span}
    (failed : (engine.render template context).outcome = .error (.missing key object keySpan objectSpan)) :
    ∃ diagnostic path, (RenderError.missing key object keySpan objectSpan).diagnostic? source = some diagnostic ∧
      diagnostic.message = "Failed lookup for key [" ++ key ++ "] in " ++ object ∧
      diagnostic.highlighted.length = diagnostic.labels.length ∧ diagnostic.highlighted.head? = some key ∧
      .path path ∈ template.operands ∧ path.span.Reads source path.text ∧
      path.Blamed source context key object diagnostic.labels := by
  obtain ⟨path, member, failed⟩ := Template.render_missing failed
  obtain ⟨text, position, readAt, -⟩ := Template.parse_operand read member
  obtain ⟨rfl, -⟩ := readAt.path
  have blamed := Template.Path.blamed readAt.stands (Template.Path.resolve_eq_error_iff.mp failed)
  have located := Template.layOut_located ((Text.intercalate_splitOn '.' text).symm ▸ readAt.stands)
  obtain ⟨covered, key⟩ := blamed.covers located
  refine ⟨_, _, rfl, rfl, covered, key, member, ?_, blamed⟩
  rw [Template.Path.ofText_text]
  exact Span.reads_of_standsAt readAt.stands

/-- A name that is missing in the argument of a filter, behind two names and a character of two bytes. -/
theorem Engine.missing_blamed_in_argument :
    let engine : Engine := ⟨{ builtins := ["custom_filters"] }, Fixture.libraries.catalog⟩
    let context : Context := .ofScope (.ofPairs [("a", .dict [("b", .list [])])])
    let source := "é\x7b\x7b 'x'|cut:a.b.c \x7d\x7d"
    ∃ template, engine.parse source = .ok template ∧
      (engine.render template context).outcome = .error (.missing "c" "[]" ⟨17, 18⟩ (some ⟨13, 16⟩)) ∧
      ∃ diagnostic path, (RenderError.missing "c" "[]" ⟨17, 18⟩ (some ⟨13, 16⟩)).diagnostic? source = some diagnostic ∧
        diagnostic.message = "Failed lookup for key [" ++ "c" ++ "] in " ++ "[]" ∧
        diagnostic.highlighted.length = diagnostic.labels.length ∧ diagnostic.highlighted.head? = some "c" ∧
        .path path ∈ template.operands ∧ path.span.Reads source path.text ∧
        path.Blamed source context "c" "[]" diagnostic.labels := by
  intro engine context source
  have done : ((engine.parse source).toOption.map fun template => (engine.render template context).outcome) =
      some (.error (.missing "c" "[]" ⟨17, 18⟩ (some ⟨13, 16⟩))) := by decide +kernel
  obtain ⟨template, parsed, failed⟩ := Option.map_eq_some_iff.mp done
  have read : engine.parse source = .ok template := Outcome.of_toOption parsed
  exact ⟨template, read, failed, Engine.missing_blamed engine read failed⟩

end Stencil
