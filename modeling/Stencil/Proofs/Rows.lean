import Stencil.Proofs.Headers
import Stencil.Proofs.Lines
import Stencil.Proofs.Wrapping

/-! What the rows of a report start with, and that none of them holds a line end. -/

set_option autoImplicit false

namespace Stencil

theorem Text.columnsFrom_fst (width column : Nat) (escaped : Bool) (cs : List Char) :
    (columnsFrom width column escaped cs).map Prod.fst = cs := by
  fun_induction columnsFrom width column escaped cs <;> simp_all

theorem Text.newline_not_mem_expandTabs {cs : List Char} (clean : '\n' ∉ cs) (width : Nat) :
    '\n' ∉ expandTabs width cs := by
  intro newline
  obtain ⟨⟨c, columns⟩, shown, newline⟩ := List.mem_flatMap.mp newline
  have member : c ∈ cs := by
    rw [← columnsFrom_fst width 0 false cs]
    exact List.mem_map_of_mem shown
  simp only at newline
  split at newline
  next => exact absurd (List.eq_of_mem_replicate newline) (by decide)
  next => exact clean (List.mem_singleton.mp newline ▸ member)

namespace Excerpt

@[simp] theorem newline_not_mem_blanks (count : Nat) : '\n' ∉ blanks count := by
  simp [blanks]

@[simp] theorem newline_not_mem_bars (count : Nat) : '\n' ∉ bars count := by
  simp [bars]

theorem newline_not_mem_lineMarks (depth : Nat) (line : Line) (index : Nat) (spans : List Annotation) :
    '\n' ∉ (lineMarks depth line index spans).1 := by
  fun_induction lineMarks depth line index spans
  case case1 => exact List.not_mem_nil
  case case2 => simp
  case case3 a _ _ _ =>
    have corner : '\n' ≠ if a.text.isEmpty then '╰' else '├' := by split <;> decide
    exact List.not_mem_cons_of_ne_of_not_mem corner (by simp)
  case case4 a _ _ _ marks _ below ih =>
    have beside : '\n' ≠ if a.passes line then '│' else ' ' := by split <;> decide
    rw [below] at ih
    exact List.not_mem_cons_of_ne_of_not_mem beside ih

@[simp] theorem newline_not_mem_lineGutter (depth : Nat) (line : Line) (annotations : List Annotation) :
    '\n' ∉ lineGutter depth line annotations := by
  rw [lineGutter]
  split
  next => exact List.not_mem_nil
  next => simp [newline_not_mem_lineMarks]

theorem newline_not_mem_labelMarks (depth : Nat) (row : LabelRow) (line : Line) (index : Nat)
    (spans : List Annotation) : '\n' ∉ (labelMarks depth row line index spans).1 := by
  fun_induction labelMarks depth row line index spans <;> simp_all

@[simp] theorem newline_not_mem_labelGutter (depth : Nat) (row : LabelRow) (line : Line)
    (annotations : List Annotation) : '\n' ∉ labelGutter depth row line annotations := by
  rw [labelGutter]
  split
  next => exact List.not_mem_nil
  next => simp [newline_not_mem_labelMarks]

theorem Underline.newline_not_mem_text (u : Underline) : '\n' ∉ u.text := by
  have mark : '\n' ≠ Underline.mark u.annotation := by
    unfold Underline.mark
    split
    next => decide
    next => split <;> decide
  simp [text, mark]

theorem Underline.newline_not_mem_row (drawn : Nat) (underlines : List Underline) : '\n' ∉ row drawn underlines := by
  fun_induction row drawn underlines <;> simp_all [newline_not_mem_text]

theorem Underline.newline_not_mem_labelRow {a : Annotation} {text : List Char} (clean : '\n' ∉ text) (kind : LabelRow)
    (column : Nat) (underlines : List Underline) : '\n' ∉ labelRow a text kind column underlines := by
  have hung : '\n' ∉ hanging text kind := by cases kind <;> simp [hanging, clean]
  fun_induction labelRow a text kind column underlines <;> simp_all

theorem labelRows_mem (texts : List (List Char)) : ∀ row ∈ labelRows texts, row.1 ∈ texts := by
  fun_cases labelRows texts <;> simp_all

namespace Canvas

variable (canvas : Canvas)

theorem newline_not_mem_numberCell (number : Nat) : '\n' ∉ canvas.numberCell number := by
  have digits : '\n' ∉ (toString number).toList :=
    fun member => absurd (Decimal.isDigit_of_mem_toString member) (by decide)
  rw [Nat.toString_eq_repr, Nat.toList_repr] at digits
  simp [numberCell, digits]

theorem newline_not_mem_emptyCell : '\n' ∉ canvas.emptyCell := by
  simp [emptyCell]

variable {canvas} {line : Line}

theorem newline_not_mem_closing {text : List Char} (clean : '\n' ∉ text) (kind : LabelRow) :
    '\n' ∉ closing text kind := by
  cases kind <;> simp [closing, clean]

/-- Below the text of a line, every row starts with an empty cell. -/
theorem underlineRows_cells (labels : ∀ a ∈ canvas.annotations, ∀ text ∈ a.text, '\n' ∉ text)
    {within : List Annotation} (among : within ⊆ canvas.annotations) :
    ∀ row ∈ canvas.underlineRows line within, ∃ rest, row = canvas.emptyCell ++ rest ∧ '\n' ∉ rest := by
  intro row member
  rw [underlineRows] at member
  split at member
  next => cases member
  next =>
    rcases List.mem_cons.mp member with rfl | member
    · exact ⟨_, List.append_assoc _ _ _, by simp [Underline.newline_not_mem_row]⟩
    · obtain ⟨a, shown, member⟩ := List.mem_flatMap.mp member
      obtain ⟨label, drawn, rfl⟩ := List.mem_map.mp member
      have clean := labels a (among (List.mem_reverse.mp shown)) _ (labelRows_mem a.text label drawn)
      exact ⟨_, List.append_assoc _ _ _, by simp [Underline.newline_not_mem_labelRow clean]⟩

theorem closingRows_cells {a : Annotation} (labels : ∀ text ∈ a.text, '\n' ∉ text) :
    ∀ row ∈ canvas.closingRows line a, ∃ rest, row = canvas.emptyCell ++ rest ∧ '\n' ∉ rest := by
  intro row member
  rw [closingRows] at member
  split at member
  next =>
    obtain ⟨label, drawn, rfl⟩ := List.mem_map.mp member
    have clean := labels _ (labelRows_mem a.text label drawn)
    exact ⟨_, List.append_assoc _ _ _, by simp [newline_not_mem_closing clean]⟩
  next => cases member

/-- The first row of a line shows its number and its text, and every other starts with an empty cell. -/
theorem lineRows_cells (clean : '\n' ∉ line.text)
    (labels : ∀ a ∈ canvas.annotations, ∀ text ∈ a.text, '\n' ∉ text) : ∃ beside below,
      canvas.lineRows line = (canvas.numberCell line.number ++ beside) :: below ∧ '\n' ∉ beside ∧
      Text.expandTabs tabWidth line.text <:+ beside ∧
      ∀ row ∈ below, ∃ rest, row = canvas.emptyCell ++ rest ∧ '\n' ∉ rest := by
  have shown : canvas.annotations.filter (·.touches line) ⊆ canvas.annotations := List.filter_sublist.subset
  have under := @underlineRows_cells canvas line labels
    ((canvas.annotations.filter (·.touches line)).filter (·.within line)) (List.Subset.trans List.filter_sublist.subset shown)
  have closed : ∀ row ∈ ((canvas.annotations.filter (·.touches line)).filter (!·.within line)).flatMap
      (canvas.closingRows line), ∃ rest, row = canvas.emptyCell ++ rest ∧ '\n' ∉ rest := by
    intro row member
    obtain ⟨a, among, member⟩ := List.mem_flatMap.mp member
    exact closingRows_cells (labels a (shown (List.mem_filter.mp among).1)) row member
  refine ⟨lineGutter canvas.depth line canvas.annotations ++ Text.expandTabs tabWidth line.text, _, ?_, ?_,
    List.suffix_append _ _, List.forall_mem_append.mpr ⟨under, closed⟩⟩
  · rw [lineRows, List.append_assoc]
    rfl
  · simp [Text.newline_not_mem_expandTabs clean]

end Canvas

end Excerpt

namespace Formatter

open Excerpt (Canvas Line blanks bars)

/-- A row that is neither cut at a line end nor located: it holds no line end and is no upper border. -/
structure Plain (row : List Char) : Prop where
  whole : '\n' ∉ row
  inner : opens row = false

theorem Plain.numbered (canvas : Canvas) (number : Nat) {rest : List Char} (whole : '\n' ∉ rest) :
    Plain (canvas.numberCell number ++ rest) :=
  ⟨List.not_mem_append (canvas.newline_not_mem_numberCell number) whole, not_opens_numberCell canvas number rest⟩

theorem Plain.unnumbered (canvas : Canvas) {rest : List Char} (whole : '\n' ∉ rest) :
    Plain (canvas.emptyCell ++ rest) :=
  ⟨List.not_mem_append canvas.newline_not_mem_emptyCell whole, not_opens_emptyCell canvas rest⟩

theorem Plain.footer (count : Nat) : Plain (blanks count ++ '╰' :: bars 4) where
  whole := List.not_mem_append (Excerpt.newline_not_mem_blanks count) (by decide)
  inner := not_opens count (by decide) (by decide) _

/-- Every row below the upper border of an excerpt is plain. The first tells the number of the first line, and every
line has a row that tells its number and shows its text. -/
theorem canvas_rows_eq {canvas : Canvas} {head : Line} {rest : List Line}
    (clean : ∀ line ∈ head :: rest, '\n' ∉ line.text)
    (labels : ∀ a ∈ canvas.annotations, ∀ text ∈ a.text, '\n' ∉ text) : ∃ first body,
      canvas.rows (head :: rest) = (blanks (canvas.numberWidth + 2) ++ '╭' :: bars 4) :: first :: body ∧
      lineNumber? first = some head.number ∧ (∀ row ∈ first :: body, Plain row) ∧
      ∀ line ∈ head :: rest, ∃ row ∈ first :: body, lineNumber? row = some line.number ∧
        Text.expandTabs Excerpt.tabWidth line.text <:+ row := by
  have plain : ∀ line ∈ head :: rest, ∀ row ∈ canvas.lineRows line, Plain row := by
    intro line member row among
    obtain ⟨beside, below, split, whole, -, others⟩ := Canvas.lineRows_cells (clean line member) labels
    rw [split] at among
    rcases List.mem_cons.mp among with rfl | later
    · exact Plain.numbered canvas line.number whole
    · obtain ⟨cell, rfl, whole⟩ := others row later
      exact Plain.unnumbered canvas whole
  obtain ⟨beside, below, split, -⟩ := Canvas.lineRows_cells (clean head List.mem_cons_self) labels
  -- The row of the first line comes right below the border, and tells its number.
  have all : (head :: rest).flatMap canvas.lineRows =
      (canvas.numberCell head.number ++ beside) :: (below ++ rest.flatMap canvas.lineRows) := by
    rw [List.flatMap_cons, split, List.cons_append]
  refine ⟨_, below ++ rest.flatMap canvas.lineRows ++ [blanks (canvas.numberWidth + 2) ++ '╰' :: bars 4], ?_,
    lineNumber?_numberCell canvas head.number beside, ?_, ?_⟩
  · rw [Canvas.rows, all]
    rfl
  · rw [← List.cons_append, ← all]
    refine List.forall_mem_append.mpr ⟨?_, List.forall_mem_singleton.mpr (Plain.footer _)⟩
    exact List.forall_mem_flatMap.mpr plain
  · intro line member
    obtain ⟨beside', below', split', -, shown, -⟩ := Canvas.lineRows_cells (clean line member) labels
    refine ⟨_, ?_, lineNumber?_numberCell canvas line.number beside', shown.trans (List.suffix_append _ _)⟩
    rw [← List.cons_append, ← all]
    exact List.mem_append_left _ (List.mem_flatMap.mpr ⟨line, member, split' ▸ List.mem_cons_self⟩)

end Formatter

end Stencil
