import Mathlib.Logic.Relation
import Stencil.Proofs.Placement
import Stencil.Template.Token

/-! Tags as pairs of positions of a source, told without the reader that looks for them: where a tag
matches, where one is left open, and which positions a scan from left to right comes to. -/

set_option autoImplicit false

namespace Stencil.Text

theorem splitAtPair_first {a b : Char} {cs before after : List Char}
    (split : splitAtPair a b cs = some (before, after)) {position : Nat}
    (earlier : position < byteLength before) : ¬StandsAt cs position [a, b] := by
  -- The pair needs two characters to start with, so a text of one has it nowhere.
  induction cs generalizing before position with
  | nil => simp [splitAtPair] at split
  | cons c cs ih =>
    cases cs with
    | nil => simp [splitAtPair] at split
    | cons d rest =>
      rw [splitAtPair] at split
      split at split
      next =>
        cases split
        exact absurd earlier (Nat.not_lt_zero position)
      next other =>
        obtain ⟨⟨first, last⟩, found, eq⟩ := Option.map_eq_some_iff.1 split
        cases eq
        rw [standsAt_cons]
        rintro (⟨-, start⟩ | ⟨next, rfl, stands⟩)
        · simp only [List.cons_prefix_cons] at start
          exact other ⟨start.1.symm, start.2.1.symm⟩
        · rw [byteLength_cons] at earlier
          exact ih found (by omega) stands

theorem splitAtPair_none {a b : Char} {cs : List Char} (split : splitAtPair a b cs = none)
    (position : Nat) : ¬StandsAt cs position [a, b] := by
  induction cs generalizing position with
  | nil => exact fun stands => by simpa using standsAt_nil stands
  | cons c cs ih =>
    rw [standsAt_cons]
    cases cs with
    | nil =>
      rintro (⟨-, start⟩ | ⟨next, -, stands⟩)
      · simpa using start.length_le
      · simpa using standsAt_nil stands
    | cons d rest =>
      rw [splitAtPair] at split
      split at split
      next => cases split
      next other =>
        rintro (⟨-, start⟩ | ⟨next, -, stands⟩)
        · simp only [List.cons_prefix_cons] at start
          exact other ⟨start.1.symm, start.2.1.symm⟩
        · exact ih (Option.map_eq_none_iff.1 split) next stands

end Stencil.Text

namespace Stencil.Template

open Text (StandsAt byteLength splitAtPair standsAt_append standsAt_append_add)

namespace Delimiter

@[simp] theorem openText_toList (kind : Delimiter) : kind.openText.toList = ['\x7b', kind.opening] :=
  String.toList_ofList

@[simp] theorem closeText_toList (kind : Delimiter) : kind.closeText.toList = [kind.closing, '\x7d'] :=
  String.toList_ofList

theorem byteLength_openText (kind : Delimiter) : byteLength kind.openText.toList = 2 := by
  cases kind <;> rfl

theorem byteLength_closeText (kind : Delimiter) : byteLength kind.closeText.toList = 2 := by
  cases kind <;> rfl

theorem atStart?_openText (kind : Delimiter) (rest : List Char) :
    atStart? (kind.openText.toList ++ rest) = some kind := by
  cases kind <;> rfl

theorem atStart?_eq_some_iff {cs : List Char} {kind : Delimiter} :
    atStart? cs = some kind ↔ kind.openText.toList <+: cs := by
  constructor
  · intro found
    obtain ⟨rest, rfl⟩ := atStart?_eq_some found
    exact ⟨rest, by simp⟩
  · rintro ⟨rest, rfl⟩
    exact atStart?_openText kind rest

theorem atStart?_cons {c : Char} {rest : List Char} {kind : Delimiter}
    (opens : atStart? (c :: rest) = some kind) : c :: rest = kind.openText.toList ++ rest.tail := by
  obtain ⟨tail, same⟩ := atStart?_eq_some opens
  obtain ⟨rfl, rfl⟩ := List.cons.inj same
  simp

theorem close_of_split {kind : Delimiter} {rest inner after : List Char}
    (split : splitAtPair kind.closing '\x7d' rest = some (inner, after)) :
    rest = inner ++ (kind.closeText.toList ++ after) := by
  rw [kind.closeText_toList]
  exact Text.splitAtPair_eq_some split

end Delimiter

/-- The kind of a tag and the positions of its two marks. -/
structure Extent where
  kind : Delimiter
  start : Nat
  close : Nat
  deriving DecidableEq, Repr

def Extent.stop (tag : Extent) : Nat := tag.close + 2

/-- The opening mark stands at the start, the closing mark stands at its position and at none between,
and no line ends between the marks. -/
structure Extent.Matches (source : List Char) (tag : Extent) : Prop where
  opens : StandsAt source tag.start tag.kind.openText.toList
  behind : tag.start + 2 ≤ tag.close
  closes : StandsAt source tag.close tag.kind.closeText.toList
  first : ∀ position, tag.start + 2 ≤ position → position < tag.close →
    ¬StandsAt source position tag.kind.closeText.toList
  oneLine : ∀ position, tag.start + 2 ≤ position → position < tag.close → ¬StandsAt source position ['\n']

/-- An opening mark stands at the position, and its closing mark nowhere behind it. -/
structure Unclosed (source : List Char) (kind : Delimiter) (start : Nat) : Prop where
  opens : StandsAt source start kind.openText.toList
  never : ∀ position, start + 2 ≤ position → ¬StandsAt source position kind.closeText.toList

/-- One move of the scan that skips matched tags: over a tag that matches here, else over one character. -/
inductive Move (source : List Char) : Nat → Nat → Prop
  | skip {tag : Extent} : tag.Matches source → Move source tag.start tag.stop
  | pass {position : Nat} {c : Char} : StandsAt source position [c] →
      (∀ tag : Extent, tag.Matches source → tag.start ≠ position) → Move source position (position + c.utf8Size)

/-- The scan comes from one position to another. -/
abbrev Reaches (source : List Char) : Nat → Nat → Prop := Relation.ReflTransGen (Move source)

/-- The leftmost tags from a position on, none inside another: each is the first match behind the one before. -/
inductive Leftmost (source : List Char) : Nat → List Extent → Prop
  | done {position : Nat} : (∀ tag : Extent, tag.Matches source → tag.start < position) →
      Leftmost source position []
  | next {position : Nat} {tag : Extent} {tags : List Extent} : tag.Matches source → position ≤ tag.start →
      (∀ other : Extent, other.Matches source → position ≤ other.start → tag.start ≤ other.start) →
      Leftmost source tag.stop tags → Leftmost source position (tag :: tags)

section
variable {before rest : List Char} {kind : Delimiter}

theorem opensAt_iff : StandsAt (before ++ rest) (byteLength before) kind.openText.toList ↔
    Delimiter.atStart? rest = some kind := by
  rw [standsAt_append, Delimiter.atStart?_eq_some_iff]

theorem standsAt_behind_open {text : List Char} {position : Nat} :
    StandsAt (before ++ (kind.openText.toList ++ rest)) (byteLength before + 2 + position) text ↔
      StandsAt rest position text := by
  have width : byteLength (before ++ kind.openText.toList) = byteLength before + 2 := by
    rw [Text.byteLength_append, kind.byteLength_openText]
  rw [← List.append_assoc, ← width]
  exact standsAt_append_add

theorem unclosed_of_split (split : splitAtPair kind.closing '\x7d' rest = none) :
    Unclosed (before ++ (kind.openText.toList ++ rest)) kind (byteLength before) where
  opens := opensAt_iff.mpr (kind.atStart?_openText rest)
  never position behind := by
    obtain ⟨offset, rfl⟩ := Nat.exists_eq_add_of_le behind
    rw [standsAt_behind_open, kind.closeText_toList]
    exact Text.splitAtPair_none split offset

section
variable {inner after : List Char} (split : splitAtPair kind.closing '\x7d' rest = some (inner, after))
include split

theorem closesAt_of_split : StandsAt (before ++ (kind.openText.toList ++ rest))
    (byteLength before + 2 + byteLength inner) kind.closeText.toList := by
  rw [standsAt_behind_open, Text.splitAtPair_eq_some split, kind.closeText_toList]
  exact standsAt_append.mpr ⟨after, rfl⟩

theorem matches_of_split (oneLine : '\n' ∉ inner) :
    Extent.Matches (before ++ (kind.openText.toList ++ rest))
      ⟨kind, byteLength before, byteLength before + 2 + byteLength inner⟩ where
  opens := opensAt_iff.mpr (kind.atStart?_openText rest)
  behind := Nat.le_add_right _ _
  closes := closesAt_of_split split
  first position behind earlier := by
    obtain ⟨offset, rfl⟩ := Nat.exists_eq_add_of_le behind
    rw [standsAt_behind_open, kind.closeText_toList]
    exact Text.splitAtPair_first split (Nat.add_lt_add_iff_left.mp earlier)
  oneLine position behind earlier := by
    obtain ⟨offset, rfl⟩ := Nat.exists_eq_add_of_le behind
    rw [standsAt_behind_open, Text.splitAtPair_eq_some split]
    intro stands
    exact oneLine (Text.mem_iff_standsAt.mpr ⟨offset, Nat.add_lt_add_iff_left.mp earlier, stands⟩)

/-- Every tag that matches at the opening mark ends at the closing mark that is found. -/
theorem Extent.Matches.close_eq {tag : Extent}
    (found : tag.Matches (before ++ (kind.openText.toList ++ rest))) (here : tag.start = byteLength before) :
    tag = ⟨kind, byteLength before, byteLength before + 2 + byteLength inner⟩ := by
  obtain ⟨other, start, close⟩ := tag
  obtain ⟨opens, behind, closes, first, -⟩ := found
  simp only at here opens behind closes first
  subst here
  rw [opensAt_iff, kind.atStart?_openText, Option.some.injEq] at opens
  subst opens
  -- Neither of the two closing marks can stand before the other.
  have least := first (byteLength before + 2 + byteLength inner) (Nat.le_add_right _ _)
  obtain ⟨offset, rfl⟩ := Nat.exists_eq_add_of_le behind
  rw [standsAt_behind_open, kind.closeText_toList] at closes
  have notLess : ¬offset < byteLength inner := fun less => Text.splitAtPair_first split less closes
  have notMore : ¬byteLength before + 2 + byteLength inner < byteLength before + 2 + offset :=
    fun less => least less (closesAt_of_split split)
  have same : offset = byteLength inner := by omega
  rw [same]

theorem not_matches_of_newline (newline : '\n' ∈ inner) {tag : Extent}
    (found : tag.Matches (before ++ (kind.openText.toList ++ rest))) : tag.start ≠ byteLength before := by
  intro here
  -- A match would end at the closing mark that is found, but a line ends before it.
  obtain ⟨offset, short, stands⟩ := Text.mem_iff_standsAt.mp newline
  rw [found.close_eq split here] at found
  refine found.oneLine (byteLength before + 2 + offset) (Nat.le_add_right _ _) (by simpa using short) ?_
  rw [standsAt_behind_open, Text.splitAtPair_eq_some split]
  exact stands

theorem not_unclosed_of_split (other : Delimiter) :
    ¬Unclosed (before ++ (kind.openText.toList ++ rest)) other (byteLength before) := by
  intro unclosed
  have same := opensAt_iff.mp unclosed.opens
  rw [kind.atStart?_openText, Option.some.injEq] at same
  subst same
  exact unclosed.never _ (Nat.le_add_right _ _) (closesAt_of_split split)

end

end

/-- A position has at most one match, since a match ends at the first closing mark. -/
theorem Extent.Matches.unique {source : List Char} {tag other : Extent} (found : tag.Matches source)
    (also : other.Matches source) (here : other.start = tag.start) : other = tag := by
  obtain ⟨before, rest, same, width⟩ := found.opens
  rw [List.append_assoc] at same
  subst same
  cases split : splitAtPair tag.kind.closing '\x7d' rest with
  | none =>
    have unclosed : Unclosed (before ++ (tag.kind.openText.toList ++ rest)) tag.kind (byteLength before) :=
      unclosed_of_split split
    rw [width] at unclosed
    exact absurd found.closes (unclosed.never tag.close found.behind)
  | some pair => rw [also.close_eq split (here.trans width.symm), ← found.close_eq split width.symm]

namespace Move

variable {source : List Char} {position next other : Nat}

theorem unique (move : Move source position next) (also : Move source position other) : next = other := by
  cases move with
  | @skip tag found =>
    generalize start : tag.start = position at also
    cases also with
    | skip same => rw [found.unique same start.symm]
    | pass _ unmatched => exact absurd start (unmatched tag found)
  | @pass _ c stands unmatched =>
    cases also with
    | skip found => exact absurd rfl (unmatched _ found)
    | pass same _ =>
      obtain ⟨before, after, rfl, rfl⟩ := stands
      rw [List.append_assoc, standsAt_append] at same
      simp only [List.singleton_append, List.cons_prefix_cons, List.nil_prefix, and_true] at same
      rw [same]

theorem increases (move : Move source position next) : position < next := by
  cases move with
  | skip found =>
    have behind := found.behind
    simp only [Extent.stop]
    omega
  | @pass _ c => exact Nat.lt_add_of_pos_right c.utf8Size_pos

theorem reaches_iff (move : Move source position next) :
    Reaches source position other ↔ position = other ∨ Reaches source next other := by
  constructor
  · intro reaches
    rcases reaches.cases_head with here | ⟨middle, also, rest⟩
    · exact Or.inl here
    · exact Or.inr (move.unique also ▸ rest)
  · rintro (rfl | rest)
    · exact .refl
    · exact .head move rest

end Move

theorem Reaches.le {source : List Char} {position other : Nat} (reaches : Reaches source position other) :
    position ≤ other := by
  induction reaches with
  | refl => exact Nat.le_refl position
  | tail _ move ih => exact Nat.le_trans ih (Nat.le_of_lt move.increases)

end Stencil.Template
