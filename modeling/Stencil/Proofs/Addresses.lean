import Mathlib.Data.Prod.Lex
import Stencil.Proofs.Location

/-! Lines and columns as addresses of byte offsets: they are counted in the text before an offset, lead back to it, and grow
with it. -/

set_option autoImplicit false

namespace Stencil

open Text (byteLength splitOn)

namespace Text

/-- The first line starts with what stands before the first line end. -/
theorem splitOn_append_of_not_mem {separator : Char} {front : List Char} (whole : separator ∉ front) (cs : List Char) :
    ∃ more others, splitOn separator (front ++ cs) = (front ++ more) :: others := by
  induction front with
  | nil =>
    obtain ⟨first, others, split⟩ := List.exists_cons_of_ne_nil (splitOn_ne_nil separator cs)
    exact ⟨first, others, split⟩
  | cons c front ih =>
    obtain ⟨other, whole⟩ := List.mem_cons.not.mp whole |> not_or.mp
    obtain ⟨more, others, split⟩ := ih whole
    refine ⟨more, others, ?_⟩
    rw [List.cons_append, splitOn, if_neg (Ne.symm other), split]
    rfl

/-- Every text is some lines with their ends and the start of one more. -/
theorem exists_lines (cs : List Char) : ∃ (lines : List (List Char)) (current : List Char),
    (∀ line ∈ lines, '\n' ∉ line) ∧ '\n' ∉ current ∧ cs = lines.flatMap (· ++ ['\n']) ++ current := by
  induction cs with
  | nil => exact ⟨[], [], nofun, List.not_mem_nil, rfl⟩
  | cons c cs ih =>
    obtain ⟨lines, current, whole, inside, rfl⟩ := ih
    by_cases newline : c = '\n'
    · subst newline
      exact ⟨[] :: lines, current, List.forall_mem_cons.mpr ⟨List.not_mem_nil, whole⟩, inside, rfl⟩
    · -- Another character belongs to the line that starts behind it.
      have other : '\n' ≠ c := Ne.symm newline
      cases lines with
      | nil => exact ⟨[], c :: current, nofun, List.not_mem_cons_of_ne_of_not_mem other inside, rfl⟩
      | cons line lines =>
        obtain ⟨here, others⟩ := List.forall_mem_cons.mp whole
        exact ⟨(c :: line) :: lines, current,
          List.forall_mem_cons.mpr ⟨List.not_mem_cons_of_ne_of_not_mem other here, others⟩, inside, rfl⟩

theorem count_lines {lines : List (List Char)} (whole : ∀ line ∈ lines, '\n' ∉ line) :
    (lines.flatMap (· ++ ['\n'])).count '\n' = lines.length := by
  induction lines with
  | nil => rfl
  | cons line lines ih =>
    obtain ⟨here, others⟩ := List.forall_mem_cons.mp whole
    rw [List.flatMap_cons, List.count_append, List.count_append, ih others, List.count_eq_zero.mpr here,
      List.count_singleton_self, List.length_cons]
    omega

theorem lines_last (lines : List (List Char)) :
    lines.flatMap (· ++ ['\n']) = [] ∨ (lines.flatMap (· ++ ['\n'])).getLast? = some '\n' := by
  rcases List.eq_nil_or_concat lines with rfl | ⟨lines, line, rfl⟩
  · exact Or.inl rfl
  · refine Or.inr ?_
    rw [List.concat_eq_append, List.flatMap_append, List.flatMap_singleton, ← List.append_assoc, List.getLast?_concat]

/-- A text is the lines that it splits into: those before one, that one, and what stands behind it. -/
theorem split_at_line {cs line : List Char} {index : Nat} (found : (splitOn '\n' cs)[index]? = some line) :
    ∃ after, cs = ((splitOn '\n' cs).take index).flatMap (· ++ ['\n']) ++ line ++ after := by
  have joined := intercalate_splitOn '\n' cs
  generalize splitOn '\n' cs = lines at joined found
  subst joined
  induction lines generalizing index with
  | nil => cases found
  | cons first others ih =>
    cases index with
    | zero =>
      cases found
      cases others with
      | nil => exact ⟨[], by rw [List.intercalate_singleton, List.append_nil]; rfl⟩
      | cons next others => exact ⟨_, by rw [List.intercalate_cons_cons, List.append_assoc]; rfl⟩
    | succ index =>
      obtain ⟨after, rest⟩ := ih found
      have some_ : others ≠ [] := by
        rintro rfl
        cases found
      refine ⟨after, ?_⟩
      rw [List.intercalate_cons_of_ne_nil some_, rest, List.take_succ_cons, List.flatMap_cons]
      simp only [List.append_assoc]

end Text

namespace Span

/-- The line and the column of a byte offset: one more than the line ends before it, and one more than the characters
behind the last of these. -/
inductive Counted (source : String) : Nat → Nat × Nat → Prop
  | intro {earlier current after : List Char} : source.toList = earlier ++ current ++ after →
      earlier = [] ∨ earlier.getLast? = some '\n' → '\n' ∉ current →
      Counted source (byteLength (earlier ++ current)) ((earlier ++ current).count '\n' + 1, current.length + 1)

/-- The byte offset of a line and a column: behind the lines before that line, each with its end, and behind the
characters before that column, of which the last may be behind the whole line. -/
def offsetAt? (source : String) : Nat × Nat → Option Nat
  | (line + 1, column + 1) =>
    let lines := splitOn '\n' source.toList
    match lines[line]? with
    | some text =>
      if column ≤ text.length then
        some (byteLength ((lines.take line).flatMap (· ++ ['\n'])) + byteLength (text.take column))
      else none
    | none => none
  | _ => none

section
variable {source : String} {lines : List (List Char)} {current after : List Char}

theorem positionAfter_lines (whole : ∀ line ∈ lines, '\n' ∉ line) (inside : '\n' ∉ current) :
    positionAfter (lines.flatMap (· ++ ['\n']) ++ current) = (lines.length + 1, current.length + 1) := by
  have shown : ∀ c ∈ current.reverse, (c != '\n') = true := by
    intro c member
    rw [bne_iff_ne]
    rintro rfl
    exact inside (List.mem_reverse.mp member)
  have stops : (lines.flatMap (· ++ ['\n'])).reverse.takeWhile (· != '\n') = [] := by
    rcases Text.lines_last lines with empty | last
    · rw [empty]
      rfl
    · rw [← List.head?_reverse] at last
      obtain ⟨rest, reversed⟩ := List.head?_eq_some_iff.mp last
      rw [reversed]
      rfl
  rw [positionAfter, List.count_append, Text.count_lines whole, List.count_eq_zero.mpr inside, List.reverse_append,
    List.takeWhile_append_of_pos shown, stops, List.append_nil, List.length_reverse, Nat.add_zero]

theorem offsetAt?_lines (whole : ∀ line ∈ lines, '\n' ∉ line) (inside : '\n' ∉ current)
    (split : source.toList = lines.flatMap (· ++ ['\n']) ++ current ++ after) :
    offsetAt? source (lines.length + 1, current.length + 1) =
      some (byteLength (lines.flatMap (· ++ ['\n']) ++ current)) := by
  obtain ⟨more, others, first⟩ := Text.splitOn_append_of_not_mem inside after
  have all : splitOn '\n' source.toList = lines ++ (current ++ more) :: others := by
    rw [split, List.append_assoc, Text.splitOn_lines_append whole, first]
  have short : current.length ≤ (current ++ more).length := by
    rw [List.length_append]
    exact Nat.le_add_right _ _
  simp only [offsetAt?, all, List.getElem?_append_right (Nat.le_refl _), Nat.sub_self, List.getElem?_cons_zero,
    if_pos short, List.take_left, Text.byteLength_append]

theorem exists_lines_of_offsetAt? {address : Nat × Nat} {offset : Nat} (found : offsetAt? source address = some offset) :
    ∃ (lines : List (List Char)) (current after : List Char), (∀ line ∈ lines, '\n' ∉ line) ∧ '\n' ∉ current ∧
      source.toList = lines.flatMap (· ++ ['\n']) ++ current ++ after ∧
      address = (lines.length + 1, current.length + 1) ∧ offset = byteLength (lines.flatMap (· ++ ['\n']) ++ current) := by
  unfold offsetAt? at found
  split at found
  next line column =>
    simp only at found
    split at found
    next text there =>
      split at found
      next short =>
        cases found
        obtain ⟨after, split⟩ := Text.split_at_line there
        obtain ⟨inside, -⟩ := List.getElem?_eq_some_iff.mp there
        have among := List.mem_of_getElem? there
        refine ⟨(splitOn '\n' source.toList).take line, text.take column, text.drop column ++ after, ?_, ?_, ?_, ?_, ?_⟩
        · exact fun line member => Text.not_mem_of_mem_splitOn (List.mem_of_mem_take member)
        · exact fun member => Text.not_mem_of_mem_splitOn among (List.mem_of_mem_take member)
        · rw [← List.append_assoc, List.append_assoc _ _ (text.drop column), List.take_append_drop]
          exact split
        · rw [List.length_take_of_le (Nat.le_of_lt inside), List.length_take_of_le short]
        · exact (Text.byteLength_append _ _).symm
      next => cases found
    next => cases found
  next => cases found

/-- An offset at the start or the end of a character is behind some lines and the start of one more. -/
theorem exists_lines_of_isValid {offset : Nat} (boundary : (⟨offset⟩ : String.Pos.Raw).IsValid source) :
    ∃ (lines : List (List Char)) (current after : List Char), (∀ line ∈ lines, '\n' ∉ line) ∧ '\n' ∉ current ∧
      source.toList = lines.flatMap (· ++ ['\n']) ++ current ++ after ∧
      offset = byteLength (lines.flatMap (· ++ ['\n']) ++ current) := by
  obtain ⟨before, after, rfl, width⟩ := String.Pos.Raw.isValid_iff_exists_append.mp boundary
  obtain ⟨lines, current, whole, inside, split⟩ := Text.exists_lines before.toList
  refine ⟨lines, current, after.toList, whole, inside, by rw [String.toList_append, split], ?_⟩
  rw [← split, Text.byteLength_toList]
  exact congrArg String.Pos.Raw.byteIdx width

theorem lineColumn_lines (whole : ∀ line ∈ lines, '\n' ∉ line) (inside : '\n' ∉ current)
    (split : source.toList = lines.flatMap (· ++ ['\n']) ++ current ++ after) (stop : Nat) :
    lineColumn ⟨byteLength (lines.flatMap (· ++ ['\n']) ++ current), stop⟩ source =
      (lines.length + 1, current.length + 1) := by
  rw [lineColumn_of_split split, positionAfter_lines whole inside]

theorem lineColumn_counted {span : Span} (boundary : (⟨span.start⟩ : String.Pos.Raw).IsValid source) :
    Counted source span.start (span.lineColumn source) := by
  obtain ⟨start, stop⟩ := span
  obtain ⟨lines, current, after, whole, inside, split, rfl⟩ := exists_lines_of_isValid boundary
  have ends : (lines.flatMap (· ++ ['\n']) ++ current).count '\n' = lines.length := by
    rw [List.count_append, Text.count_lines whole, List.count_eq_zero.mpr inside, Nat.add_zero]
  rw [lineColumn_lines whole inside split, ← ends]
  exact .intro split (Text.lines_last lines) inside

theorem offsetAt?_eq_some_iff {address : Nat × Nat} {span : Span} : offsetAt? source address = some span.start ↔
    (⟨span.start⟩ : String.Pos.Raw).IsValid source ∧ span.lineColumn source = address := by
  obtain ⟨start, stop⟩ := span
  constructor
  · intro found
    obtain ⟨lines, current, after, whole, inside, split, rfl, rfl⟩ := exists_lines_of_offsetAt? found
    exact ⟨Text.isValid_of_split split, lineColumn_lines whole inside split stop⟩
  · rintro ⟨boundary, rfl⟩
    obtain ⟨lines, current, after, whole, inside, split, rfl⟩ := exists_lines_of_isValid boundary
    rw [lineColumn_lines whole inside split]
    exact offsetAt?_lines whole inside split

theorem lineColumn_lt {first second : Span} (boundary : (⟨first.start⟩ : String.Pos.Raw).IsValid source)
    (boundary' : (⟨second.start⟩ : String.Pos.Raw).IsValid source) (lt : first.start < second.start) :
    toLex (first.lineColumn source) < toLex (second.lineColumn source) := by
  obtain ⟨start, stop⟩ := first
  obtain ⟨start', stop'⟩ := second
  obtain ⟨lines, current, after, whole, inside, split, rfl⟩ := exists_lines_of_isValid boundary
  obtain ⟨lines', current', after', -, -, split', rfl⟩ := exists_lines_of_isValid boundary'
  rw [lineColumn_lines whole inside split, lineColumn_of_split split']
  generalize lines'.flatMap (· ++ ['\n']) ++ current' = before' at *
  obtain ⟨between, rfl⟩ := Text.prefix_of_byteLength_le (split.symm.trans split') (Nat.le_of_lt lt)
  rw [Text.byteLength_append _ between] at lt
  rw [Prod.Lex.toLex_lt_toLex]
  by_cases newline : '\n' ∈ between
  · left
    have more : 0 < between.count '\n' := List.count_pos_iff.mpr newline
    rw [positionAfter, List.count_append, List.count_append, Text.count_lines whole]
    omega
  · right
    have some_ : 0 < between.length := by
      refine List.length_pos_iff.mpr ?_
      rintro rfl
      exact Nat.lt_irrefl _ lt
    rw [List.append_assoc, positionAfter_lines whole (List.not_mem_append inside newline), List.length_append]
    exact ⟨rfl, by omega⟩

end

/-- The line and the column of an offset are counted in the text before it, an offset is the one that they lead back to,
and of two offsets the greater is behind the other by line and column. -/
theorem lineColumn_faithful (source : String) :
    (∀ span : Span, (⟨span.start⟩ : String.Pos.Raw).IsValid source →
      Counted source span.start (span.lineColumn source)) ∧
    (∀ (address : Nat × Nat) (span : Span), offsetAt? source address = some span.start ↔
      (⟨span.start⟩ : String.Pos.Raw).IsValid source ∧ span.lineColumn source = address) ∧
    ∀ first second : Span, (⟨first.start⟩ : String.Pos.Raw).IsValid source →
      (⟨second.start⟩ : String.Pos.Raw).IsValid source → first.start < second.start →
      toLex (first.lineColumn source) < toLex (second.lineColumn source) :=
  ⟨fun _ => lineColumn_counted, fun _ _ => offsetAt?_eq_some_iff, fun _ _ => lineColumn_lt⟩

/-- An offset before a line end and one behind a character of two bytes on the next line. -/
theorem lineColumn_faithful_multibyte :
    let source := "é\nü\x7b"
    let first : Span := ⟨2, 3⟩
    let second : Span := ⟨5, 6⟩
    (⟨2⟩ : String.Pos.Raw).IsValid source ∧ (⟨5⟩ : String.Pos.Raw).IsValid source ∧
      first.lineColumn source = (1, 2) ∧ second.lineColumn source = (2, 2) ∧
      Counted source 2 (1, 2) ∧ offsetAt? source (2, 2) = some 5 ∧
      toLex (first.lineColumn source) < toLex (second.lineColumn source) := by
  intro source first second
  have boundary : (⟨2⟩ : String.Pos.Raw).IsValid source :=
    Text.isValid_of_split (show source.toList = ['é'] ++ ['\n', 'ü', '\x7b'] by decide)
  have boundary' : (⟨5⟩ : String.Pos.Raw).IsValid source :=
    Text.isValid_of_split (show source.toList = ['é', '\n', 'ü'] ++ ['\x7b'] by decide)
  have here : first.lineColumn source = (1, 2) := by decide +kernel
  have there : second.lineColumn source = (2, 2) := by decide +kernel
  obtain ⟨counted, leads, grows⟩ := lineColumn_faithful source
  have back := (leads (2, 2) second).mpr ⟨boundary', there⟩
  exact ⟨boundary, boundary', here, there, here ▸ counted first boundary, back,
    grows first second boundary boundary' (by decide)⟩

end Span

end Stencil
