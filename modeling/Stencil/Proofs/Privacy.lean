import Stencil.Engine
import Stencil.Fixture.Filters
import Stencil.Proofs.Lookups

/-! Private names, which start with an underscore: no path of a template that was read has one, so no render looks one
up, and an expression fails at the first of its operands that has one. -/

set_option autoImplicit false

namespace Stencil

/-- A name that starts with an underscore. -/
def IsPrivate (name : String) : Prop := name.toList.head? = some '_'

namespace Template

open Text (byteLength splitOn)

/-- The text is no literal, and one of its names is private. -/
structure HasPrivateName (text : List Char) : Prop where
  unquoted : ¬IsLiteral text
  named : ∃ piece ∈ splitOn '.' text, IsPrivate (String.ofList piece)

/-- The filter is in scope and takes as many values as it is given. -/
def Fits (registry : Registry) (f : FilterText) : Prop :=
  ∃ bound, registry.get? (String.ofList f.name) = some bound ∧
    bound.filter.arity.accepts (1 + f.argument.toList.length) = true

/-- The first operand of an expression that has a private name, and the text before it. It is the base, or the argument
of a filter that is in scope behind filters that fit. -/
inductive FirstPrivate (registry : Registry) (base : List Char) (filters : List FilterText) :
    List Char → List Char → Prop
  | base : HasPrivateName base → FirstPrivate registry base filters [] base
  | argument {earlier later : List FilterText} {f : FilterText} {text : List Char} : ¬HasPrivateName base →
      filters = earlier ++ f :: later →
      (∀ g ∈ earlier, Fits registry g ∧ ∀ other, g.argument = some other → ¬HasPrivateName other) →
      (registry.get? (String.ofList f.name)).isSome → f.argument = some text → HasPrivateName text →
      FirstPrivate registry base filters
        (base ++ earlier.flatMap FilterText.text ++ f.lead ++ f.name ++ [':']) text

theorem splitOn_head (c d : Char) (cs : List Char) (other : d ≠ c) :
    ((splitOn c cs).head?.bind List.head?) = some d ↔ cs.head? = some d := by
  cases cs with
  | nil => simp [splitOn]
  | cons a cs =>
    rw [splitOn]
    split
    next same => simp [same, other.symm]
    next => split <;> rfl

/-- A point with an underscore behind it is one between two pieces of which the second starts with the underscore. -/
theorem splitOn_tail (cs : List Char) :
    (∃ piece ∈ (splitOn '.' cs).tail, piece.head? = some '_') ↔ ['.', '_'] <:+: cs := by
  induction cs with
  | nil => simp [splitOn]
  | cons c cs ih =>
    rw [splitOn, List.infix_cons_iff, ← ih, List.cons_prefix_cons]
    have first := splitOn_head '.' '_' cs (by decide)
    cases pieces : splitOn '.' cs with
    | nil => exact absurd pieces (Text.splitOn_ne_nil '.' cs)
    | cons piece rest =>
      rw [pieces, List.head?_cons, Option.bind_some] at first
      split
      next same =>
        have next : ['_'] <+: cs ↔ cs.head? = some '_' := by cases cs <;> simp [eq_comm]
        rw [List.tail_cons, List.tail_cons, List.exists_mem_cons_iff, first, next]
        simp [same]
      next other =>
        simp [eq_comm, other]

/-- The test on the whole text is one on the names between its points. -/
theorem private_piece_iff {text : List Char} : (∃ piece ∈ splitOn '.' text, IsPrivate (String.ofList piece)) ↔
    text.head? = some '_' ∨ ['.', '_'] <:+: text := by
  have first := splitOn_head '.' '_' text (by decide)
  have later := splitOn_tail text
  cases pieces : splitOn '.' text with
  | nil => exact absurd pieces (Text.splitOn_ne_nil '.' text)
  | cons piece rest =>
    rw [pieces, List.head?_cons, Option.bind_some] at first
    rw [pieces, List.tail_cons] at later
    simp only [IsPrivate, String.toList_ofList, List.exists_mem_cons_iff, first, later]

theorem permitted_iff {text : List Char} : Permitted text ↔ ¬HasPrivateName text := by
  rw [Permitted, ← private_piece_iff]
  constructor
  · rintro (literal | unhidden) found
    · exact found.unquoted literal
    · exact unhidden found.named
  · intro none
    by_cases literal : IsLiteral text
    · exact Or.inl literal
    · exact Or.inr fun named => none ⟨literal, named⟩

theorem Operand.ofText_private {text : List Char} (found : HasPrivateName text) (offset : Nat) :
    ofText text offset = .error (.underscoreName (String.ofList text) ⟨offset, offset + byteLength text⟩) := by
  cases read : ofText text offset with
  | ok operand => exact absurd found (permitted_iff.mp (ofText_eq_ok_iff.mp ⟨operand, read⟩))
  | error error => rw [ofText_error read]

theorem Operand.ofText_path {text : List Char} {offset : Nat} {p : Path} (read : ofText text offset = .ok (.path p)) :
    p = Path.ofText text offset ∧ hasPrivateName text = false := by
  unfold ofText at read
  split at read
  next => cases read
  next =>
    split at read
    next => cases read
    next =>
      split at read
      next => cases read
      next unhidden =>
        cases read
        exact ⟨rfl, Bool.eq_false_iff.mpr unhidden⟩

/-- A path that was read has no private name. -/
theorem Path.names_public {text : List Char} {offset : Nat} {p : Path}
    (read : Operand.ofText text offset = .ok (.path p)) : ∀ segment ∈ p.segments, ¬IsPrivate segment.name := by
  obtain ⟨rfl, unhidden⟩ := Operand.ofText_path read
  intro segment member hidden
  have named : segment.name ∈ (splitOn '.' text).map String.ofList := by
    rw [← layOut_names offset ((splitOn '.' text).map String.ofList)]
    exact List.mem_map_of_mem member
  obtain ⟨piece, among, same⟩ := List.mem_map.mp named
  rw [Bool.eq_false_iff, ne_eq, hasPrivateName_iff, ← private_piece_iff] at unhidden
  exact unhidden ⟨piece, among, same ▸ hidden⟩

section
variable {registry : Registry}

theorem FilterUse.ofText_private {position : Nat} {f : FilterText} {text : List Char}
    (bound : (registry.get? (String.ofList f.name)).isSome) (argument : f.argument = some text)
    (found : HasPrivateName text) : ofText registry position f =
      .error (.underscoreName (String.ofList text)
        ⟨f.argumentStart position, f.argumentStart position + byteLength text⟩) := by
  obtain ⟨filter, bound⟩ := Option.isSome_iff_exists.mp bound
  refine ofText_of_argument bound ?_
  rw [argument, Option.mapM_some, Operand.ofText_private found]
  rfl

/-- Filters that can be read are passed over, up to one that cannot. -/
theorem readFilters_of_error {position : Nat} {earlier later : List FilterText} {f : FilterText} {error : ParseError}
    (formed : ∀ g ∈ earlier ++ f :: later, g.WellFormed) (admitted : ∀ g ∈ earlier, Admits registry g)
    (failed : FilterUse.ofText registry (position + byteLength (earlier.flatMap FilterText.text)) f = .error error) :
    readFilters registry position ((earlier ++ f :: later).flatMap FilterText.text) = .error error := by
  have cut {g : FilterText} {rest : List FilterText} (formed : ∀ h ∈ g :: rest, h.WellFormed) :
      takeFilter ((g :: rest).flatMap FilterText.text) = some (g, rest.flatMap FilterText.text) := by
    obtain ⟨here, behind⟩ := List.forall_mem_cons.mp formed
    have stops := stops_of_filters behind fun _ => stops_nil
    rw [List.append_nil] at stops
    rw [List.flatMap_cons]
    exact takeFilter_complete here stops
  induction earlier generalizing position with
  | nil =>
    rw [List.nil_append, readFilters_of_some (cut formed)]
    exact Outcome.bind_eq_error.mpr (Or.inl failed)
  | cons g earlier ih =>
    obtain ⟨here, behind⟩ := List.forall_mem_cons.mp admitted
    rw [List.flatMap_cons, Text.byteLength_append, ← Nat.add_assoc] at failed
    obtain ⟨use, read⟩ := FilterUse.readFrom_iff.mpr here
    rw [List.cons_append] at formed ⊢
    rw [readFilters_of_some (cut formed)]
    refine Outcome.bind_eq_error.mpr (Or.inr ⟨use, FilterUse.ofText_eq_ok_iff.mpr read, ?_⟩)
    exact Outcome.bind_eq_error.mpr (Or.inl (ih (List.forall_mem_cons.mp formed).2 behind failed))

theorem Expression.ofText_private {text base before operand : List Char} {filters : List FilterText}
    (splits : Splits text base filters) (first : FirstPrivate registry base filters before operand) (offset : Nat) :
    ofText registry text offset = .error (.underscoreName (String.ofList operand)
      ⟨offset + byteLength before, offset + byteLength before + byteLength operand⟩) := by
  have cut := splits.takeOperand
  cases first with
  | base found =>
    rw [ofText]
    simp only [cut, Operand.ofText_private found]
    rfl
  | @argument earlier later f _ unhidden split fit bound argument found =>
    subst split
    obtain ⟨start, read⟩ : ∃ start, Operand.ofText base offset = .ok start :=
      Operand.ofText_eq_ok_iff.mpr (permitted_iff.mpr unhidden)
    have admitted : ∀ g ∈ earlier, Admits registry g := by
      intro g member
      obtain ⟨⟨filter, known, accepts⟩, arguments⟩ := fit g member
      exact ⟨filter, known, accepts, fun other given => permitted_iff.mpr (arguments other given)⟩
    have width : offset + byteLength base + byteLength (earlier.flatMap FilterText.text) + byteLength f.lead +
        byteLength f.name + 1 =
          offset + byteLength (base ++ earlier.flatMap FilterText.text ++ f.lead ++ f.name ++ [':']) := by
      have colon : byteLength [':'] = 1 := rfl
      simp only [Text.byteLength_append, colon, Nat.add_assoc]
    have failed := @FilterUse.ofText_private registry
      (offset + byteLength base + byteLength (earlier.flatMap FilterText.text)) f operand bound argument found
    have filters := readFilters_of_error splits.filters admitted failed
    rw [FilterText.argumentStart, width] at filters
    rw [ofText]
    simp only [cut, read, filters]
    rfl

end

end Template

/-- Private names stay out of reach. A template that was read names none in a path, so a render looks none up in the
context, in a dictionary or on a host object. An expression of the grammar fails at its first operand, other than a
literal, that names one, and the error tells the operand and where it stands. -/
theorem Engine.parse_private (engine : Engine) :
    (∀ source template, engine.parse source = .ok template →
      (∀ path, .path path ∈ template.operands → ∀ segment ∈ path.segments, ¬IsPrivate segment.name) ∧
      ∀ context settings, (template.trace context settings).evaluation = template.render context settings ∧
        ∀ lookup ∈ (template.trace context settings).lookups, ¬IsPrivate lookup.name) ∧
    ∀ registry text base filters before operand offset, Template.Splits text base filters →
      Template.FirstPrivate registry base filters before operand →
      Template.Expression.ofText registry text offset = .error (.underscoreName (String.ofList operand)
        ⟨offset + Text.byteLength before, offset + Text.byteLength before + Text.byteLength operand⟩) := by
  refine ⟨fun source template read => ?_, fun _ _ _ _ _ _ offset splits first =>
    Template.Expression.ofText_private splits first offset⟩
  have hidden : ∀ path, .path path ∈ template.operands → ∀ segment ∈ path.segments, ¬IsPrivate segment.name := by
    intro path member
    obtain ⟨text, position, readAt, -⟩ := Template.parse_operand read member
    exact Template.Path.names_public readAt.read
  refine ⟨hidden, fun context settings => ⟨template.trace_evaluation context settings, fun lookup member => ?_⟩⟩
  obtain ⟨operand, among, named⟩ := List.mem_flatMap.mp (template.trace_among context settings lookup member)
  cases operand with
  | literal => cases named
  | path path =>
    obtain ⟨segment, inPath, same⟩ := List.mem_map.mp named
    exact same ▸ hidden path among segment inPath

/-- A private key of a dictionary and a quoted one are no lookups. Of two private operands the first is told, though the
filter behind it is unknown. -/
theorem Engine.parse_private_argument :
    let engine : Engine := ⟨{ builtins := ["custom_filters"] }, Fixture.libraries.catalog⟩
    let context := Context.empty.set "a" (.dict [("_c", .none), ("b", .text "x_c")])
    let registry := Registry.load .empty Fixture.customFilters
    let text := "é|lower|cut:b._c|cut:_d|nope".toList
    (∃ template, engine.parse "\x7b\x7b a.b|cut:'_c' \x7d\x7d" = .ok template ∧
      (template.trace context engine.settings).lookups = [⟨.context, "a"⟩, ⟨.dictionary, "b"⟩] ∧
      ∀ lookup ∈ (template.trace context engine.settings).lookups, ¬IsPrivate lookup.name) ∧
    Template.Expression.ofText registry text 3 = .error (.underscoreName "b._c" ⟨16, 20⟩) := by
  intro engine context registry text
  obtain ⟨kept, told⟩ := parse_private engine
  constructor
  · have read : (engine.parse "\x7b\x7b a.b|cut:'_c' \x7d\x7d").toOption.map
        (fun template => (template.trace context engine.settings).lookups) =
          some [⟨.context, "a"⟩, ⟨.dictionary, "b"⟩] := by decide +kernel
    obtain ⟨template, parsed, lookups⟩ := Option.map_eq_some_iff.mp read
    have done := Outcome.of_toOption parsed
    exact ⟨template, done, lookups, ((kept _ template done).2 context engine.settings).2⟩
  · let lower : Template.FilterText := ⟨['|'], "lower".toList, none⟩
    let cut : Template.FilterText := ⟨['|'], "cut".toList, some "b._c".toList⟩
    let later : List Template.FilterText := [⟨['|'], "cut".toList, some "_d".toList⟩, ⟨['|'], "nope".toList, none⟩]
    have parts : Template.Splits text ['é'] ([lower] ++ cut :: later) :=
      Template.splits_iff.mpr ⟨"|lower|cut:b._c|cut:_d|nope".toList, by decide +kernel, by decide +kernel⟩
    have base : ¬Template.HasPrivateName ['é'] := by
      rintro ⟨-, piece, member, hidden⟩
      rw [List.mem_singleton.mp member] at hidden
      exact absurd hidden (show some 'é' ≠ some '_' by decide)
    have accepts : (registry.get? "lower").map (fun bound => bound.filter.arity.accepts 1) = some true := by
      decide +kernel
    have fits : Template.Fits registry lower := Option.map_eq_some_iff.mp accepts
    have found : Template.HasPrivateName "b._c".toList := by
      refine ⟨?_, "_c".toList, by decide, rfl⟩
      rw [Template.isLiteral_iff_number rfl]
      decide +kernel
    exact told registry text _ _ _ _ 3 parts (.argument base rfl
      (List.forall_mem_singleton.mpr ⟨fits, nofun⟩) (by decide +kernel) rfl found)

end Stencil
