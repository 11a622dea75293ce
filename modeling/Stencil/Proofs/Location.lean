import Stencil.Proofs.Acceptance
import Stencil.Proofs.Placement

/-! Spans that read pieces of a source back: those of operands, of the filters behind them and of whole
expressions, from the place where the text of an expression stands. -/

set_option autoImplicit false

namespace Stencil

open Text (byteLength StandsAt)

/-- The span lies in the source, on boundaries of characters, and covers the text. -/
structure Span.Reads (span : Span) (source text : String) : Prop where
  ordered : span.start ≤ span.stop
  inBounds : span.stop ≤ source.utf8ByteSize
  start_boundary : (⟨span.start⟩ : String.Pos.Raw).IsValid source
  stop_boundary : (⟨span.stop⟩ : String.Pos.Raw).IsValid source
  slice : span.slice? source = some text

theorem Text.isValid_of_split {source : String} {before after : List Char}
    (split : source.toList = before ++ after) : (⟨byteLength before⟩ : String.Pos.Raw).IsValid source := by
  refine String.Pos.Raw.isValid_iff_exists_append.mpr ⟨String.ofList before, String.ofList after, ?_, ?_⟩
  · rw [← String.ofList_append, ← split, String.ofList_toList]
  · ext
    exact (Text.utf8ByteSize_ofList before).symm

theorem Span.reads_of_standsAt {source : String} {text : List Char} {position : Nat}
    (stands : StandsAt source.toList position text) :
    (⟨position, position + byteLength text⟩ : Span).Reads source (String.ofList text) := by
  have inside := stands.le
  obtain ⟨before, after, split, rfl⟩ := stands
  rw [Text.byteLength_toList] at inside
  refine ⟨Nat.le_add_right _ _, inside, ?_, ?_, slice?_of_split split⟩
  · exact Text.isValid_of_split (by rw [split, List.append_assoc])
  · rw [← Text.byteLength_append]
    exact Text.isValid_of_split split

theorem Span.standsAt_of_slice? {span : Span} {source text : String} (covers : span.slice? source = some text) :
    StandsAt source.toList span.start text.toList ∧ span.stop = span.start + byteLength text.toList := by
  obtain ⟨cs, sliced, rfl⟩ := Option.map_eq_some_iff.mp covers
  rw [String.toList_ofList]
  exact Text.standsAt_of_sliceBytes? sliced

theorem Span.Reads.standsAt {span : Span} {source text : String} (reads : span.Reads source text) :
    StandsAt source.toList span.start text.toList ∧ span.stop = span.start + byteLength text.toList :=
  standsAt_of_slice? reads.slice

namespace Template

/-- The spans of an operand read back its text, those of a path also its names and its beginnings. -/
def Operand.Located (source text : String) : Operand → Prop
  | literal value span => span.Reads source text ∧ ofText text.toList span.start = .ok (literal value span)
  | path p => p.text = text ∧ p.span.Reads source text ∧
    (∀ segment ∈ p.segments, segment.span.Reads source segment.name) ∧
    ∀ index, (p.prefixSpan index).Reads source (".".intercalate ((p.segments.take (index + 1)).map (·.name)))

/-- The span of a filter reads back its name, and behind a colon the text of its argument. -/
def FilterUse.Located (source : String) (use : FilterUse) : Prop :=
  match use.argument with
  | none => use.span.Reads source use.name
  | some operand => ∃ text, operand.Located source text ∧ use.span.Reads source (use.name ++ ":" ++ text)

/-- The span of an expression reads back its text, and those inside it read back theirs. -/
structure Expression.Located (source : String) (e : Expression) : Prop where
  token : e.span.Reads source e.token
  base : ∃ text, e.base.Located source text
  filters : ∀ use ∈ e.filters, use.Located source

section
variable {source : String} {position : Nat}

theorem layOut_located {names : List (List Char)}
    (stands : StandsAt source.toList position (['.'].intercalate names)) :
    ∀ segment ∈ Path.layOut position (names.map String.ofList), segment.span.Reads source segment.name := by
  induction names generalizing position with
  | nil => exact nofun
  | cons name names ih =>
    intro segment member
    rw [List.map_cons, Path.layOut, Text.utf8ByteSize_ofList] at member
    cases names with
    | nil =>
      rw [List.intercalate_singleton] at stands
      rw [List.mem_singleton.mp member]
      exact Span.reads_of_standsAt stands
    | cons next names =>
      rw [List.intercalate_cons_cons, List.append_assoc] at stands
      rcases List.mem_cons.mp member with rfl | later
      · exact Span.reads_of_standsAt stands.left
      · exact ih stands.right.right segment later

theorem layOut_stop {names : List (List Char)} {index : Nat} {segment : Segment}
    (found : (Path.layOut position (names.map String.ofList))[index]? = some segment) :
    segment.span.stop = position + byteLength (['.'].intercalate (names.take (index + 1))) := by
  -- Each name but the last is followed by the one byte of a point.
  induction names generalizing position index with
  | nil => cases found
  | cons name names ih =>
    rw [List.map_cons, Path.layOut, Text.utf8ByteSize_ofList] at found
    cases index with
    | zero =>
      cases found
      rw [List.take_succ_cons, List.take_zero, List.intercalate_singleton]
      rfl
    | succ index =>
      have some_ : names.take (index + 1) ≠ [] := by
        cases names with
        | nil => cases found
        | cons => exact List.cons_ne_nil _ _
      rw [List.getElem?_cons_succ] at found
      rw [ih found, List.take_succ_cons, List.intercalate_cons_of_ne_nil some_, Text.byteLength_append,
        Text.byteLength_append]
      show _ = position + (byteLength name + 1 + _)
      omega

theorem intercalate_take (names : List (List Char)) (count : Nat) :
    ∃ rest, ['.'].intercalate names = ['.'].intercalate (names.take count) ++ rest := by
  induction names generalizing count with
  | nil => exact ⟨[], by simp⟩
  | cons name names ih =>
    cases count with
    | zero => exact ⟨_, rfl⟩
    | succ count =>
      obtain ⟨rest, split⟩ := ih count
      cases names with
      | nil => exact ⟨[], by simp⟩
      | cons next names =>
        cases count with
        | zero => exact ⟨'.' :: ['.'].intercalate (next :: names), by simp⟩
        | succ count =>
          refine ⟨rest, ?_⟩
          rw [List.take_succ_cons] at split
          rw [List.intercalate_cons_cons, split, List.take_succ_cons, List.take_succ_cons,
            List.intercalate_cons_cons]
          simp only [List.append_assoc]

theorem Path.ofText_segments_ne_nil (text : List Char) (position : Nat) : (ofText text position).segments ≠ [] := by
  intro none
  have names := layOut_names position ((Text.splitOn '.' text).map String.ofList)
  rw [show Path.layOut position _ = [] from none, List.map_nil, eq_comm, List.map_eq_nil_iff] at names
  exact Text.splitOn_ne_nil '.' text names

/-- Every beginning of a path is read back by the span from the start of the path to the end of its last name. -/
theorem Path.prefixSpan_reads {text : List Char} (stands : StandsAt source.toList position text) (index : Nat) :
    ((Path.ofText text position).prefixSpan index).Reads source
      (".".intercalate (((Path.ofText text position).segments.take (index + 1)).map (·.name))) := by
  have names : (((Path.ofText text position).segments.take (index + 1)).map (·.name)) =
      ((Text.splitOn '.' text).take (index + 1)).map String.ofList := by
    rw [List.map_take, Path.ofText, layOut_names, List.map_take]
  obtain ⟨rest, split⟩ := intercalate_take (Text.splitOn '.' text) (index + 1)
  rw [Text.intercalate_splitOn] at split
  rw [names, intercalate_ofList]
  have reads := Span.reads_of_standsAt (split ▸ stands).left
  cases found : (Path.ofText text position).segments[index]? with
  | some segment =>
    rw [← layOut_stop found] at reads
    rw [Path.prefixSpan, found]
    exact reads
  | none =>
    -- There are not as many names, so the beginning is the whole path.
    rw [Path.prefixSpan, found]
    have all : (Path.layOut position ((Text.splitOn '.' text).map String.ofList)).length ≤ index :=
      List.getElem?_eq_none_iff.mp found
    have count := congrArg List.length (layOut_names position ((Text.splitOn '.' text).map String.ofList))
    rw [List.length_map, List.length_map] at count
    rw [List.take_of_length_le, Text.intercalate_splitOn]
    · exact Span.reads_of_standsAt stands
    · omega

theorem Path.segment_stop_le {text : List Char} {before after : List Segment} {last : Segment}
    (split : (Path.ofText text position).segments = before ++ last :: after) :
    last.span.stop ≤ position + byteLength text := by
  -- The name is among those in front of its end, and the text goes on behind them.
  have found : (Path.layOut position ((Text.splitOn '.' text).map String.ofList))[before.length]? = some last := by
    rw [show Path.layOut position _ = before ++ last :: after from split]
    simp
  obtain ⟨rest, whole⟩ := intercalate_take (Text.splitOn '.' text) (before.length + 1)
  rw [Text.intercalate_splitOn] at whole
  have width := congrArg byteLength whole
  rw [Text.byteLength_append] at width
  rw [layOut_stop found]
  omega

theorem Operand.located {text : List Char} {operand : Operand} (stands : StandsAt source.toList position text)
    (read : ofText text position = .ok operand) : operand.Located source (String.ofList text) := by
  have again := read
  have reads := Span.reads_of_standsAt stands
  unfold ofText at read
  split at read
  next =>
    cases read
    exact ⟨reads, by rw [String.toList_ofList]; exact again⟩
  next =>
    split at read
    next =>
      cases read
      exact ⟨reads, by rw [String.toList_ofList]; exact again⟩
    next =>
      split at read
      next => cases read
      next =>
        cases read
        refine ⟨Path.ofText_text text position, reads, ?_, Path.prefixSpan_reads stands⟩
        rw [← Text.intercalate_splitOn '.' text] at stands
        exact layOut_located stands

section
variable {f : FilterText} {text : List Char} (stands : StandsAt source.toList position f.text)
include stands

theorem FilterText.reads : (⟨position + byteLength f.lead, position + byteLength f.text⟩ : Span).Reads source
    (String.ofList (f.name ++ argumentText f.argument)) := by
  have width : position + byteLength f.text =
      position + byteLength f.lead + byteLength (f.name ++ argumentText f.argument) := by
    rw [FilterText.text, List.append_assoc, Text.byteLength_append, Nat.add_assoc]
  rw [FilterText.text, List.append_assoc] at stands
  rw [width]
  exact Span.reads_of_standsAt stands.right

theorem FilterText.argument_stands (argument : f.argument = some text) :
    StandsAt source.toList (f.argumentStart position) text := by
  rw [FilterText.text, argument, argumentText, List.append_assoc] at stands
  have behind : StandsAt source.toList (position + byteLength f.lead + byteLength f.name) ([':'] ++ text) :=
    stands.right.right
  exact behind.right

theorem FilterUse.located {registry : Registry} {use : FilterUse} (read : use.ReadFrom registry position f) :
    use.Located source := by
  have reads := FilterText.reads stands
  rw [← read.span] at reads
  have related := read.argument
  rw [Located]
  cases argument : f.argument with
  | none =>
    rw [argument] at related reads
    generalize use.argument = operand at related ⊢
    cases related
    rw [read.name]
    simpa only [argumentText, List.append_nil] using reads
  | some text =>
    rw [argument] at related reads
    generalize use.argument = operand at related ⊢
    cases related with
    | some done =>
      refine ⟨String.ofList text, Operand.located (FilterText.argument_stands stands argument) done.read, ?_⟩
      rw [argumentText, String.ofList_append, ← List.singleton_append, String.ofList_append,
        ← String.append_assoc, ← read.name] at reads
      exact reads

end

theorem UsesReadFrom.located {registry : Registry} {filters : List FilterText} {uses : List FilterUse}
    (stands : StandsAt source.toList position (filters.flatMap FilterText.text))
    (read : UsesReadFrom registry position filters uses) : ∀ use ∈ uses, use.Located source := by
  induction filters generalizing position uses with
  | nil =>
    cases uses with
    | nil => exact nofun
    | cons => cases read
  | cons f filters ih =>
    cases uses with
    | nil => exact nofun
    | cons use uses =>
      rw [List.flatMap_cons] at stands
      exact List.forall_mem_cons.mpr ⟨FilterUse.located stands.left read.1, ih stands.right read.2⟩

theorem Expression.located {registry : Registry} {text : List Char} {e : Expression}
    (stands : StandsAt source.toList position text) (done : ofText registry text position = .ok e) :
    e.Located source := by
  obtain ⟨base, filters, read⟩ := ofText_eq_ok_iff.mp done
  have reads := Span.reads_of_standsAt stands
  rw [← read.span, ← read.token] at reads
  rw [read.splits.text_eq] at stands
  exact ⟨reads, ⟨_, Operand.located stands.left read.operand.read⟩, read.uses.located stands.right⟩

end

end Template

end Stencil
