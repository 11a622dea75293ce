import Stencil.Proofs.Excerpts
import Stencil.Proofs.Rows

/-! A report of labels that start on one line: its rows are those of the message, of one excerpt and of the advice, and
the upper border of the excerpt tells where the first label starts. -/

set_option autoImplicit false

namespace Stencil

open Text (byteLength Paired splitOn)

theorem Text.splitOn_lines {rows : List (List Char)} (whole : ∀ row ∈ rows, '\n' ∉ row) :
    splitOn '\n' (rows.flatMap (· ++ ['\n'])) = rows ++ [[]] := by
  have split := splitOn_lines_append whole []
  rwa [List.append_nil] at split

theorem Text.flatMap_splitOn {rows : List (List Char)} (whole : ∀ row ∈ rows, '\n' ∉ row) :
    rows.flatMap (splitOn '\n') = rows := by
  induction rows with
  | nil => rfl
  | cons row rows ih =>
    obtain ⟨here, others⟩ := List.forall_mem_cons.mp whole
    rw [List.flatMap_cons, splitOn_of_not_mem here, ih others, List.singleton_append]

namespace Formatter

open Excerpt (blanks bars tabWidth Line OnLine Window Annotation)

section
variable {source : String} {ends : Nat} {a b : Span}

/-- Of two spans on one line, that which starts first is before the other by line and column. -/
theorem lineColumn_le (onA : OnLine source.toList ends a.start a.length)
    (onB : OnLine source.toList ends b.start b.length) (le : a.start ≤ b.start) : (a.lineColumn source).1 = ends + 1 ∧
      positionLe (a.lineColumn source) (b.lineColumn source) = true := by
  obtain ⟨start, stop⟩ := a
  obtain ⟨start', stop'⟩ := b
  obtain ⟨before, c, after, split, rfl, rfl, -⟩ := onA
  obtain ⟨before', c', after', split', rfl, same, -⟩ := onB
  obtain ⟨between, rfl⟩ := Text.prefix_of_byteLength_le (split.symm.trans split') le
  have none : '\n' ∉ between := by
    rw [List.count_append] at same
    exact List.count_eq_zero.mp (by omega)
  rw [Span.lineColumn_of_split split, Span.lineColumn_of_split split']
  refine ⟨rfl, ?_⟩
  have shown : ∀ c ∈ between.reverse, (c != '\n') = true := fun c member => by
    rw [bne_iff_ne]
    rintro rfl
    exact none (List.mem_reverse.mp member)
  simp only [positionLe, Span.positionAfter, same, List.reverse_append, List.takeWhile_append_of_pos shown,
    List.length_append, beq_self_eq_true, Bool.true_and, Bool.or_eq_true, decide_eq_true_eq]
  omega

end

theorem positionLe_trans (a b c : Nat × Nat) (first : positionLe a b) (second : positionLe b c) : positionLe a c := by
  simp only [positionLe, Bool.or_eq_true, Bool.and_eq_true, decide_eq_true_eq, beq_iff_eq] at *
  omega

theorem positionLe_total (a b : Nat × Nat) : positionLe a b || positionLe b a := by
  simp only [positionLe, Bool.or_eq_true, Bool.and_eq_true, decide_eq_true_eq, beq_iff_eq]
  omega

theorem positionLe_antisymm {a b : Nat × Nat} (first : positionLe a b) (second : positionLe b a) : a = b := by
  simp only [positionLe, Bool.or_eq_true, Bool.and_eq_true, decide_eq_true_eq, beq_iff_eq] at *
  exact Prod.ext (by omega) (by omega)

/-- The first of the sorted positions is that of a label that starts first. -/
theorem positions_eq_cons {source : String} {ends : Nat} {labels : List Label} {first : Label}
    (on : ∀ label ∈ labels, OnLine source.toList ends label.span.start label.span.length) (member : first ∈ labels)
    (least : ∀ label ∈ labels, first.span.start ≤ label.span.start) : (first.span.lineColumn source).1 = ends + 1 ∧
      ∃ rest, (labels.map (·.span.lineColumn source)).mergeSort positionLe = first.span.lineColumn source :: rest := by
  have among := List.mem_map_of_mem (f := fun label : Label => label.span.lineColumn source) member
  obtain ⟨head, rest, sorted, shown, -, front⟩ :=
    Excerpt.mergeSort_eq_cons positionLe_trans positionLe_total (List.ne_nil_of_mem among)
  -- Sorting may put another label first, but then both start at the same place.
  obtain ⟨other, member', rfl⟩ := List.mem_map.mp shown
  obtain ⟨line, le⟩ := lineColumn_le (on first member) (on other member') (least other member')
  exact ⟨line, rest, by rw [sorted, positionLe_antisymm le (front _ among)]⟩

/-- A row of a wrapped paragraph is plain if what the margins start with is. -/
theorem messageRows_plain (formatter : Formatter) (message : String) :
    ∀ row ∈ formatter.messageRows message, Plain row := by
  intro row member
  obtain ⟨rest, margin, held⟩ := Text.Margins.wrap_mem _ _ row member
  have whole : '\n' ∉ rest := fun newline => (held _ newline).elim (by decide) fun within => within.2 rfl
  rcases margin with rfl | rfl
  · exact ⟨List.not_mem_append (show '\n' ∉ "  × ".toList by decide) whole, not_opens 2 (by decide) (by decide) _⟩
  · exact ⟨List.not_mem_append (show '\n' ∉ "  │ ".toList by decide) whole, not_opens 2 (by decide) (by decide) _⟩

theorem helpRows_plain (formatter : Formatter) {help : String} (plain : '╭' ∉ help.toList) :
    ∀ row ∈ formatter.helpRows help, Plain row := by
  intro row member
  obtain ⟨rest, margin, held⟩ := Text.Margins.wrap_mem _ _ row member
  have whole : '\n' ∉ rest := fun newline => (held _ newline).elim (by decide) fun within => within.2 rfl
  have inner : '╭' ∉ rest := fun corner => (held _ corner).elim (by decide) fun within => plain within.1
  rcases margin with rfl | rfl
  · exact ⟨List.not_mem_append (show '\n' ∉ "  help: ".toList by decide) whole,
      not_opens_of_not_mem (List.not_mem_append (show '╭' ∉ "  help: ".toList by decide) inner)⟩
  · exact ⟨List.not_mem_append (show '\n' ∉ "        ".toList by decide) whole,
      not_opens_of_not_mem (List.not_mem_append (show '╭' ∉ "        ".toList by decide) inner)⟩

theorem newline_not_mem_ofLabel (label : Label) : ∀ text ∈ ( Annotation.ofLabel label).text, '\n' ∉ text := by
  intro text member
  unfold Annotation.ofLabel at member
  dsimp only at member
  split at member
  next => cases member
  next => exact Text.not_mem_of_mem_splitOn member

/-- Of rows that are drawn, only the upper border changes, and it gets the first position. -/
theorem locateHeaders_drawn {above below : List (List Char)} {top : List Char} {number : Nat} {position : Nat × Nat}
    (others : List (Nat × Nat)) (margin : Nat) (before : ∀ row ∈ above, Plain row)
    (behind : ∀ row ∈ top :: below, Plain row) (numbered : lineNumber? top = some number)
    (front : number ≤ position.1) :
    locateHeaders (position :: others)
        ((above ++ (blanks margin ++ '╭' :: bars 4) :: top :: below).flatMap (splitOn '\n')) =
      above ++ headerAt margin position :: top :: below := by
  have border : '\n' ∉ blanks margin ++ '╭' :: bars 4 :=
    List.not_mem_append (Excerpt.newline_not_mem_blanks margin) (by decide)
  have whole : ∀ row ∈ above ++ (blanks margin ++ '╭' :: bars 4) :: top :: below, '\n' ∉ row :=
    List.forall_mem_append.mpr ⟨fun row member => (before row member).whole,
      List.forall_mem_cons.mpr ⟨border, fun row member => (behind row member).whole⟩⟩
  have found : (position :: others).find? (number ≤ ·.1) = some position :=
    List.find?_cons_of_pos (decide_eq_true front)
  rw [Text.flatMap_splitOn whole, locateHeaders_append fun row member => not_isHeader (before row member).inner,
    locateHeaders_border (isHeader_border margin) numbered found, locatedHeader_border,
    locateHeaders_of_plain fun row member => not_isHeader (behind row member).inner]

theorem report_lines {formatter : Formatter} {diagnostic : Diagnostic} {above below : List (List Char)} {margin : Nat}
    {position : Nat × Nat} (rows : formatter.rows diagnostic = above ++ headerAt margin position :: below)
    (before : ∀ row ∈ above, Plain row) (behind : ∀ row ∈ below, Plain row) :
    splitOn '\n' (formatter.report diagnostic).toList = above ++ headerAt margin position :: (below ++ [[]]) := by
  have whole : ∀ row ∈ above ++ headerAt margin position :: below, '\n' ∉ row :=
    List.forall_mem_append.mpr ⟨fun row member => (before row member).whole,
      List.forall_mem_cons.mpr ⟨newline_not_mem_headerAt margin position, fun row member => (behind row member).whole⟩⟩
  rw [report, String.toList_ofList, rows, Text.splitOn_lines whole, List.append_assoc, List.cons_append]

/-- A report has one upper border, below some lines and above others. It tells the line and column of a label that
starts first, and below it a row shows the line of the source on which that label starts, with that number. -/
structure Locates (formatter : Formatter) (diagnostic : Diagnostic) (label : Label) (margin : Nat)
    (above below : List (List Char)) : Prop where
  first : label ∈ diagnostic.labels ∧ ∀ other ∈ diagnostic.labels, label.span.start ≤ other.span.start
  lines : splitOn '\n' (formatter.report diagnostic).toList =
    above ++ headerAt margin (label.span.lineColumn diagnostic.source) :: below
  only : ∀ line ∈ above ++ below, opens line = false
  numbered : ∃ length window line row,
    Window.read? diagnostic.source.toList label.span.start length formatter.contextLines = some window ∧
      line ∈ Line.ofWindow window ∧ ( Annotation.ofLabel label).startsOn line = true ∧
      line.number = (label.span.lineColumn diagnostic.source).1 ∧
      row ∈ below ∧ lineNumber? row = some line.number ∧ Text.expandTabs tabWidth line.text <:+ row

section
variable {formatter : Formatter} {diagnostic : Diagnostic} {ends : Nat}
  (paired : Paired diagnostic.source.toList) (some_ : diagnostic.labels ≠ [])
  (on : ∀ label ∈ diagnostic.labels, OnLine diagnostic.source.toList ends label.span.start label.span.length)
  (shown : ∀ label ∈ diagnostic.labels, 0 < formatter.contextLines ∨ 0 < label.span.length)
include paired some_ on shown

/-- Below its upper border, the excerpt starts with a line no later than that of the labels, and shows theirs too. -/
theorem excerpt_rows : ∃ label ∈ diagnostic.labels, (∀ other ∈ diagnostic.labels, label.span.start ≤ other.span.start) ∧
    ∃ margin top body number, Excerpt.rows diagnostic.source.toList formatter.contextLines
        (diagnostic.labels.map Annotation.ofLabel) = (blanks margin ++ '╭' :: bars 4) :: top :: body ∧
      lineNumber? top = some number ∧ number ≤ ends + 1 ∧ (∀ row ∈ top :: body, Plain row) ∧
      ∃ length window line row,
        Window.read? diagnostic.source.toList label.span.start length formatter.contextLines = some window ∧
          line ∈ Line.ofWindow window ∧ ( Annotation.ofLabel label).startsOn line = true ∧ line.number = ends + 1 ∧
          row ∈ top :: body ∧ lineNumber? row = some line.number ∧ Text.expandTabs tabWidth line.text <:+ row := by
  obtain ⟨_, member, least, length, window, sorted, read, among, excerpt, ⟨head, rest, split, front⟩, line,
      shownLine, starts, number⟩ :=
    @Excerpt.rows_eq diagnostic.source.toList ends formatter.contextLines
      (diagnostic.labels.map Annotation.ofLabel) paired (by simpa using some_)
      (List.forall_mem_map.mpr fun label among => ⟨on label among, shown label among⟩)
  obtain ⟨label, labelled, rfl⟩ := List.mem_map.mp member
  have clean : ∀ line ∈ Line.ofWindow window, '\n' ∉ line.text := Line.newline_not_mem_text List.not_mem_nil
  have texts : ∀ a ∈ sorted, ∀ text ∈ a.text, '\n' ∉ text := fun a drawn => by
    obtain ⟨other, -, rfl⟩ := List.mem_map.mp (among a drawn)
    exact newline_not_mem_ofLabel other
  rw [split] at excerpt clean
  obtain ⟨top, body, rows, numbered, plain, every⟩ :=
    @canvas_rows_eq (Excerpt.Canvas.ofLines (head :: rest) sorted) head rest clean texts
  obtain ⟨row, shownRow, told, text⟩ := every line (split ▸ shownLine)
  exact ⟨label, labelled, fun other among => least _ (List.mem_map_of_mem among), _, top, body, head.number,
    excerpt.trans rows, numbered, front, plain, length, window, line, row, read, shownLine, starts, number, shownRow,
    told, text⟩

theorem report_locates (advice : ∀ help ∈ diagnostic.help, '╭' ∉ help.toList) :
    ∃ label margin above below, formatter.Locates diagnostic label margin above below := by
  obtain ⟨label, labelled, first, margin, top, body, number, excerpt, numbered, front, plain, length, window, line, row,
    read, shownLine, starts, here, shownRow, told, text⟩ := excerpt_rows paired some_ on shown
  obtain ⟨position, others, sorted⟩ := positions_eq_cons on labelled first
  -- All that is drawn is plain but the upper border, so nothing is cut and only the border is located.
  have above := formatter.messageRows_plain diagnostic.message
  have help : ∀ row ∈ diagnostic.help.elim [] formatter.helpRows, Plain row := by
    cases given : diagnostic.help with
    | none => exact nofun
    | some help => exact formatter.helpRows_plain (advice help given)
  have below : ∀ row ∈ top :: (body ++ diagnostic.help.elim [] formatter.helpRows), Plain row :=
    List.forall_mem_append.mpr ⟨plain, help⟩
  have rows : formatter.rows diagnostic = formatter.messageRows diagnostic.message ++
      headerAt margin (label.span.lineColumn diagnostic.source) ::
        top :: (body ++ diagnostic.help.elim [] formatter.helpRows) := by
    rw [← locateHeaders_drawn others margin above below numbered (position ▸ front), Formatter.rows, sorted,
      if_neg (by simpa using some_), excerpt]
    simp only [List.append_assoc, List.cons_append]
  refine ⟨label, margin, _, _, ⟨labelled, first⟩, report_lines rows above below, ?_, length, window, line, row, read,
    shownLine, starts, here.trans position.symm, ?_, told, text⟩
  · refine List.forall_mem_append.mpr ⟨fun row member => (above row member).inner, ?_⟩
    exact List.forall_mem_append.mpr ⟨fun row member => (below row member).inner, List.forall_mem_singleton.mpr rfl⟩
  · exact List.mem_append_left _ (List.mem_append_left _ shownRow)

end

end Formatter

end Stencil
