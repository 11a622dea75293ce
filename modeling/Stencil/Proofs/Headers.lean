import Stencil.Proofs.Numerals
import Stencil.Report

/-! Which rows are upper borders of an excerpt, and what becomes of them; the number of a row is read back from it. -/

set_option autoImplicit false

namespace Stencil

namespace Text

theorem trimEnd_prefix (cs : List Char) : trimEnd cs <+: cs := by
  rw [trimEnd, ← List.reverse_suffix, List.reverse_reverse]
  exact List.dropWhile_suffix isBlank

theorem isBlank_of_isDigit {c : Char} (digit : isDigit c = true) : isBlank c = false := by
  rw [isDigit, Bool.and_eq_true, decide_eq_true_eq, decide_eq_true_eq] at digit
  have least : 48 ≤ c.toNat := digit.1
  have most : c.toNat ≤ 57 := digit.2
  simp [isBlank]
  omega

end Text

namespace Formatter

open Excerpt (blanks bars)

variable {row : List Char}

/-- Whether the first that a row shows is the corner of an upper border, bare or located. -/
def opens (row : List Char) : Bool := (row.dropWhile (· == ' ')).head? == some '╭'

theorem opens_of_isHeader (header : isHeader row = true) : opens row = true := by
  rw [isHeader, beq_iff_eq] at header
  obtain ⟨rest, split⟩ := header ▸ Text.trimEnd_prefix (row.dropWhile (· == ' '))
  rw [opens, ← split]
  rfl

theorem not_isHeader (inner : opens row = false) : isHeader row = false := by
  rw [Bool.eq_false_iff] at inner ⊢
  exact fun header => inner (opens_of_isHeader header)

theorem dropWhile_blanks (count : Nat) {c : Char} (shown : c ≠ ' ') (rest : List Char) :
    (blanks count ++ c :: rest).dropWhile (· == ' ') = c :: rest := by
  rw [List.dropWhile_append_of_pos, List.dropWhile_cons_of_neg (by simpa using shown)]
  exact fun d member => beq_iff_eq.mpr (List.eq_of_mem_replicate member)

/-- A row that shows another first than a corner is no upper border. -/
theorem not_opens (count : Nat) {c : Char} (shown : c ≠ ' ') (other : c ≠ '╭') (rest : List Char) :
    opens (blanks count ++ c :: rest) = false := by
  rw [opens, dropWhile_blanks count shown]
  simpa using other

theorem not_opens_of_not_mem (none : '╭' ∉ row) : opens row = false := by
  rw [opens, beq_eq_false_iff_ne]
  exact fun corner => none ((List.dropWhile_sublist _).subset (List.mem_of_head? corner))

theorem isHeader_border (count : Nat) : isHeader (blanks count ++ '╭' :: bars 4) = true := by
  rw [isHeader, dropWhile_blanks count (by decide)]
  decide

/-- An upper border with a line and a column in it, behind blanks. -/
def headerAt (margin : Nat) (position : Nat × Nat) : List Char :=
  blanks margin ++ ("╭─[" ++ toString position.1 ++ ":" ++ toString position.2 ++ "]").toList

theorem locatedHeader_border (margin : Nat) (position : Nat × Nat) :
    locatedHeader (blanks margin ++ '╭' :: bars 4) position = headerAt margin position := by
  have front : (blanks margin ++ '╭' :: bars 4).takeWhile (· == ' ') = blanks margin := by
    rw [List.takeWhile_append_of_pos fun c member => beq_iff_eq.mpr (List.eq_of_mem_replicate member)]
    exact List.append_nil _
  rw [locatedHeader, front, headerAt]

theorem newline_not_mem_headerAt (margin : Nat) (position : Nat × Nat) : '\n' ∉ headerAt margin position := by
  have digits (number : Nat) : '\n' ∉ (toString number).toList :=
    fun member => absurd (Decimal.isDigit_of_mem_toString member) (by decide)
  simp only [headerAt, String.toList_append, List.mem_append, not_or]
  exact ⟨fun blank => absurd (List.eq_of_mem_replicate blank) (by decide),
    ⟨⟨⟨by decide, digits _⟩, by decide⟩, digits _⟩, by decide⟩

theorem numberCell_eq (canvas : Excerpt.Canvas) (number : Nat) : canvas.numberCell number =
    blanks (canvas.numberWidth - (toString number).toList.length + 1) ++ ((toString number).toList ++ [' ']) ++
      ['│', ' '] := by
  simp [Excerpt.Canvas.numberCell, blanks, List.replicate_succ]

/-- The number cell of a row tells its number. -/
theorem lineNumber?_numberCell (canvas : Excerpt.Canvas) (number : Nat) (rest : List Char) :
    lineNumber? (canvas.numberCell number ++ rest) = some number := by
  have digits : ∀ c ∈ (toString number).toList, Text.isDigit c = true := fun c => Decimal.isDigit_of_mem_toString
  -- The bar behind the number is the first of its row.
  have before : '│' ∉ blanks (canvas.numberWidth - (toString number).toList.length + 1) ++
      ((toString number).toList ++ [' ']) := by
    intro member
    rcases List.mem_append.mp member with blank | shown
    · exact absurd (List.eq_of_mem_replicate blank) (by decide)
    · rcases List.mem_append.mp shown with digit | blank
      · exact absurd (digits _ digit) (by decide)
      · exact absurd (List.mem_singleton.mp blank) (by decide)
  have shown (c : Char) (member : c ∈ (toString number).toList) : Text.isBlank c = false :=
    Text.isBlank_of_isDigit (digits c member)
  have trimmed : Text.trim (blanks (canvas.numberWidth - (toString number).toList.length + 1) ++
      ((toString number).toList ++ [' '])) = (toString number).toList := by
    refine Text.trim_run (fun c member => ?_) (List.forall_mem_singleton.mpr rfl) (fun c head => ?_) fun c last =>
      shown c (List.mem_of_getLast? last)
    · rw [List.eq_of_mem_replicate member]
      decide
    · obtain ⟨digit, digits, number⟩ := List.exists_cons_of_ne_nil (Decimal.toString_toList_ne_nil number)
      rw [number] at head shown
      cases head
      exact shown _ List.mem_cons_self
  rw [lineNumber?, numberCell_eq, List.append_assoc, List.cons_append, Text.splitFirst_append before, Option.bind_some]
  simp only [trimmed]
  exact Decimal.readNat?_toString number

theorem not_opens_numberCell (canvas : Excerpt.Canvas) (number : Nat) (rest : List Char) :
    opens (canvas.numberCell number ++ rest) = false := by
  obtain ⟨c, cs, digits⟩ := List.exists_cons_of_ne_nil (Decimal.toString_toList_ne_nil number)
  have digit : Text.isDigit c = true := Decimal.isDigit_of_mem_toString (digits ▸ List.mem_cons_self)
  rw [numberCell_eq, List.append_assoc, List.append_assoc, digits, List.cons_append, List.cons_append]
  exact not_opens _ (by rintro rfl; cases digit) (by rintro rfl; cases digit) _

theorem not_opens_emptyCell (canvas : Excerpt.Canvas) (rest : List Char) :
    opens (canvas.emptyCell ++ rest) = false := by
  have front : blanks (canvas.numberWidth + 2) = ' ' :: (blanks canvas.numberWidth ++ [' ']) := by
    rw [blanks, List.replicate_succ, List.replicate_succ']
    rfl
  have cell : canvas.emptyCell ++ rest = blanks (canvas.numberWidth + 2) ++ '·' :: ' ' :: rest := by
    simp [Excerpt.Canvas.emptyCell, front]
  rw [cell]
  exact not_opens _ (by decide) (by decide) _

section
variable {positions : List (Nat × Nat)} {rows : List (List Char)}

theorem locateHeaders_append {above : List (List Char)} (plain : ∀ row ∈ above, isHeader row = false) :
    locateHeaders positions (above ++ rows) = above ++ locateHeaders positions rows := by
  induction above with
  | nil => rfl
  | cons row above ih =>
    obtain ⟨here, others⟩ := List.forall_mem_cons.mp plain
    rw [List.cons_append, locateHeaders, ih others]
    simp [here]

theorem locateHeaders_of_plain (plain : ∀ row ∈ rows, isHeader row = false) : locateHeaders positions rows = rows := by
  simpa [locateHeaders] using @locateHeaders_append positions [] rows plain

theorem locateHeaders_border {below : List Char} {number : Nat} {position : Nat × Nat} (header : isHeader row = true)
    (numbered : lineNumber? below = some number) (found : positions.find? (number ≤ ·.1) = some position) :
    locateHeaders positions (row :: below :: rows) =
      locatedHeader row position :: locateHeaders positions (below :: rows) := by
  rw [locateHeaders]
  simp [header, numbered, found]

end

end Formatter

end Stencil
