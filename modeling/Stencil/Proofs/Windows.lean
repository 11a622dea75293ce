import Stencil.Excerpt.Window
import Stencil.Proofs.Lines
import Stencil.Proofs.Placement

/-! The part of a source that is shown around a span: it starts at one of the lines before the span, told by its
number of line ends, and reaches past the start of the span. -/

set_option autoImplicit false

namespace Stencil

namespace Text

/-- Every carriage return has a line feed behind it. -/
inductive Paired : List Char → Prop
  | nil : Paired []
  | pair {cs : List Char} : Paired cs → Paired ('\r' :: '\n' :: cs)
  | other {c : Char} {cs : List Char} : c ≠ '\r' → Paired cs → Paired (c :: cs)

def isPaired : List Char → Bool
  | [] => true
  | '\r' :: '\n' :: cs => isPaired cs
  | c :: cs => c != '\r' && isPaired cs

theorem isPaired_iff {cs : List Char} : isPaired cs = true ↔ Paired cs := by
  constructor
  · intro checked
    fun_induction isPaired cs with
    | case1 => exact .nil
    | case2 cs ih => exact .pair (ih checked)
    | case3 c cs other ih =>
      obtain ⟨plain, rest⟩ := Bool.and_eq_true_iff.mp checked
      exact .other (bne_iff_ne.mp plain) (ih rest)
  · intro paired
    induction paired with
    | nil => rfl
    | pair _ ih => exact ih
    | @other c cs plain _ ih =>
      rw [isPaired, ih, Bool.and_true]
      · exact bne_iff_ne.mpr plain
      · exact fun _ same => absurd same plain

instance (cs : List Char) : Decidable (Paired cs) := decidable_of_iff _ isPaired_iff

/-- A paired text may be cut anywhere but between a carriage return and its line feed. -/
theorem Paired.cut {front back : List Char} (paired : Paired (front ++ back)) (whole : front.getLast? ≠ some '\r') :
    Paired front ∧ Paired back := by
  generalize text : front ++ back = cs at paired
  induction paired generalizing front with
  | nil =>
    obtain ⟨rfl, rfl⟩ := List.append_eq_nil_iff.mp text
    exact ⟨.nil, .nil⟩
  | @pair cs paired ih =>
    rcases front with _ | ⟨c, _ | ⟨d, front⟩⟩
    · cases text
      exact ⟨.nil, .pair paired⟩
    · cases text
      exact absurd rfl whole
    · cases text
      obtain ⟨left, right⟩ := ih (fun last => whole (by simp [List.getLast?_cons, last])) rfl
      exact ⟨.pair left, right⟩
  | @other c cs plain paired ih =>
    rcases front with _ | ⟨d, front⟩
    · cases text
      exact ⟨.nil, .other plain paired⟩
    · cases text
      obtain ⟨left, right⟩ := ih (fun last => whole (by simp [List.getLast?_cons, last])) rfl
      exact ⟨.other plain left, right⟩

end Text

namespace Excerpt

open Text (byteLength Paired)

section
variable {offset : Nat}

theorem placesFrom_feed (cs : List Char) :
    placesFrom offset ('\n' :: cs) = ⟨offset, true⟩ :: placesFrom (offset + 1) cs := by
  rw [placesFrom, if_pos (Or.inr rfl)]
  exact nofun

theorem placesFrom_plain {c : Char} (returns : c ≠ '\r') (feeds : c ≠ '\n') (cs : List Char) :
    placesFrom offset (c :: cs) =
      (List.range c.utf8Size).map (⟨offset + ·, false⟩) ++ placesFrom (offset + c.utf8Size) cs := by
  rw [placesFrom, if_neg (by simp [returns, feeds])]
  exact fun _ same => absurd same returns

theorem placesFrom_append {front : List Char} (paired : Paired front) (back : List Char) :
    placesFrom offset (front ++ back) = placesFrom offset front ++ placesFrom (offset + byteLength front) back := by
  induction paired generalizing offset with
  | nil => rfl
  | @pair cs _ ih =>
    have width : offset + byteLength ('\r' :: '\n' :: cs) = offset + 2 + byteLength cs := by
      have returns : '\r'.utf8Size = 1 := rfl
      have feeds : '\n'.utf8Size = 1 := rfl
      simp only [Text.byteLength_cons]
      omega
    simp only [List.cons_append, placesFrom, ih, width]
  | @other c cs returns _ ih =>
    rw [List.cons_append, Text.byteLength_cons, ← Nat.add_assoc]
    by_cases feeds : c = '\n'
    · subst feeds
      rw [placesFrom_feed, placesFrom_feed, ih]
      rfl
    · rw [placesFrom_plain returns feeds, placesFrom_plain returns feeds, ih, List.append_assoc]

/-- Behind a place of a paired text, some of its characters and one or more bytes of the next are read; the next is no
carriage return. -/
theorem mem_placesFrom {cs : List Char} (paired : Paired cs) {place : Place} (member : place ∈ placesFrom offset cs) :
    ∃ front c back count, cs = front ++ c :: back ∧ c ≠ '\r' ∧ 1 ≤ count ∧ count ≤ c.utf8Size ∧
      place.offset + 1 = offset + byteLength front + count := by
  have feedSize : '\n'.utf8Size = 1 := rfl
  induction paired generalizing offset with
  | nil => cases member
  | @pair cs _ ih =>
    rcases List.mem_cons.mp member with rfl | later
    · exact ⟨['\r'], '\n', cs, 1, rfl, by decide, Nat.le_refl _, Nat.le_refl _, rfl⟩
    · obtain ⟨front, c, back, count, rfl, other, least, most, here⟩ := ih later
      refine ⟨'\r' :: '\n' :: front, c, back, count, rfl, other, least, most, ?_⟩
      have returns : '\r'.utf8Size = 1 := rfl
      simp only [Text.byteLength_cons]
      omega
  | @other c cs returns _ ih =>
    by_cases feeds : c = '\n'
    · subst feeds
      rw [placesFrom_feed] at member
      rcases List.mem_cons.mp member with rfl | later
      · exact ⟨[], '\n', cs, 1, rfl, returns, Nat.le_refl _, Nat.le_refl _, rfl⟩
      · obtain ⟨front, d, back, count, rfl, other, least, most, here⟩ := ih later
        refine ⟨'\n' :: front, d, back, count, rfl, other, least, most, ?_⟩
        simp only [Text.byteLength_cons]
        omega
    · rw [placesFrom_plain returns feeds] at member
      rcases List.mem_append.mp member with within | later
      · obtain ⟨index, below, rfl⟩ := List.mem_map.mp within
        have below := List.mem_range.mp below
        exact ⟨[], c, cs, index + 1, rfl, returns, Nat.le_add_left _ _, below, by simp [Nat.add_assoc]⟩
      · obtain ⟨front, d, back, count, rfl, other, least, most, here⟩ := ih later
        refine ⟨c :: front, d, back, count, rfl, other, least, most, ?_⟩
        simp only [Text.byteLength_cons]
        omega

/-- The last place is the end of the text. -/
theorem placesFrom_getLast? {cs : List Char} (paired : Paired cs) (some_ : cs ≠ []) :
    ∃ place, (placesFrom offset cs).getLast? = some place ∧ place.offset + 1 = offset + byteLength cs := by
  have feedSize : '\n'.utf8Size = 1 := rfl
  induction paired generalizing offset with
  | nil => exact absurd rfl some_
  | @pair cs _ ih =>
    have returnSize : '\r'.utf8Size = 1 := rfl
    rw [placesFrom, List.getLast?_cons]
    simp only [Text.byteLength_cons]
    by_cases last : cs = []
    · subst last
      exact ⟨_, rfl, rfl⟩
    · obtain ⟨place, found, here⟩ := @ih (offset + 2) last
      exact ⟨place, by rw [found]; rfl, by omega⟩
  | @other c cs returns _ ih =>
    rw [Text.byteLength_cons]
    by_cases feeds : c = '\n'
    · subst feeds
      rw [placesFrom_feed, List.getLast?_cons]
      by_cases last : cs = []
      · subst last
        exact ⟨_, rfl, rfl⟩
      · obtain ⟨place, found, here⟩ := @ih (offset + 1) last
        exact ⟨place, by rw [found]; rfl, by omega⟩
    · rw [placesFrom_plain returns feeds, List.getLast?_append]
      by_cases last : cs = []
      · subst last
        have pos := c.utf8Size_pos
        refine ⟨⟨offset + (c.utf8Size - 1), false⟩, ?_, ?_⟩
        · rw [List.getLast?_map, List.getLast?_range, if_neg (by omega)]
          rfl
        · simp only [Text.byteLength_nil]
          omega
      · obtain ⟨place, found, here⟩ := @ih (offset + c.utf8Size) last
        exact ⟨place, by rw [found]; rfl, by omega⟩

/-- What stands before the first byte is left out. -/
theorem cutBytes_before {start stop : Nat} {front : List Char} (back : List Char)
    (before : offset + byteLength front ≤ start) :
    cutBytes start stop offset (front ++ back) = cutBytes start stop (offset + byteLength front) back := by
  induction front generalizing offset with
  | nil => rfl
  | cons c front ih =>
    rw [Text.byteLength_cons] at before
    rw [List.cons_append, cutBytes, Text.byteLength_cons]
    rw [if_pos (Or.inl (by omega)), List.nil_append, ih (by omega), Nat.add_assoc]

theorem cutBytes_within {start stop : Nat} {front : List Char} (back : List Char) (begun : start ≤ offset)
    (reached : offset + byteLength front ≤ stop) :
    cutBytes start stop offset (front ++ back) = front ++ cutBytes start stop (offset + byteLength front) back := by
  induction front generalizing offset with
  | nil => rfl
  | cons c front ih =>
    have pos := c.utf8Size_pos
    rw [Text.byteLength_cons] at reached
    rw [List.cons_append, cutBytes, Text.byteLength_cons]
    rw [if_neg (by omega), if_neg (by omega), if_neg (by omega), ih (by omega) (by omega), ← Nat.add_assoc]
    rfl

theorem cutBytes_behind {start stop : Nat} (cs : List Char) (ended : stop ≤ offset) :
    cutBytes start stop offset cs = [] := by
  induction cs generalizing offset with
  | nil => rfl
  | cons c cs ih =>
    rw [cutBytes]
    rw [if_pos (Or.inr ended), List.nil_append, ih (by omega)]

/-- A last character of which not all bytes are shown is shown as another. -/
theorem cutBytes_last {start stop count : Nat} {c : Char} (back : List Char) (begun : start ≤ offset)
    (least : 1 ≤ count) (most : count ≤ c.utf8Size) (ended : stop = offset + count) :
    ∃ last, cutBytes start stop offset (c :: back) = [last] ∧ (last = c ∨ last = '\ufffd') := by
  rw [cutBytes]
  rw [if_neg (by omega), if_neg (by omega), cutBytes_behind back (by omega)]
  split
  next => exact ⟨_, rfl, Or.inr rfl⟩
  next => exact ⟨_, rfl, Or.inl rfl⟩

end

/-- A byte position of a text with the number of line ends before it. -/
def CutAt (cs : List Char) (ends position : Nat) : Prop :=
  ∃ front back, cs = front ++ back ∧ byteLength front = position ∧ front.count '\n' = ends

theorem CutAt.append {cs : List Char} {ends position : Nat} (cut : CutAt cs ends position) (more : List Char) :
    CutAt (cs ++ more) ends position := by
  obtain ⟨front, back, rfl, width, count⟩ := cut
  exact ⟨front, back ++ more, by rw [List.append_assoc], width, count⟩

namespace Progress

/-- What is known of the window once a text before the span is read: `starts` are the starts of the last whole lines,
as many as are shown, and `line` counts the lines before those. -/
structure Reached (context : Nat) (read : List Char) (p : Progress) : Prop where
  counted : p.line + p.starts.length = read.count '\n'
  most : p.starts.length ≤ context
  full : p.line = 0 ∨ p.starts.length = context
  starts : ∀ index start, p.starts[index]? = some start → CutAt read (p.line + index) start
  lineStart : CutAt read (read.count '\n') p.lineStart
  after : p.after = 0
  unfinished : p.finished = false

theorem reached_start (context : Nat) : Reached context [] {} where
  counted := rfl
  most := Nat.zero_le _
  full := Or.inl rfl
  starts := nofun
  lineStart := ⟨[], [], rfl, rfl, rfl⟩
  after := rfl
  unfinished := rfl

section
variable {context start length : Nat} {read : List Char} {p : Progress} {place : Place}

/-- Text that ends no line changes nothing. -/
theorem Reached.longer (reached : Reached context read p) {more : List Char}
    (same : (read ++ more).count '\n' = read.count '\n') : Reached context (read ++ more) p where
  counted := same ▸ reached.counted
  most := reached.most
  full := reached.full
  starts index start found := (reached.starts index start found).append more
  lineStart := same ▸ reached.lineStart.append more
  after := reached.after
  unfinished := reached.unfinished

/-- What a place does behind the line that it may end. -/
def arrive (p : Progress) (start length context place : Nat) : Progress :=
  let p :=
    if !p.finished && start + length - 1 ≤ place then { p with passed := true, finished := context ≤ p.after } else p
  { p with offset := place + 1 }

theorem next_eq_arrive (p : Progress) (start length context : Nat) (place : Place) :
    p.next start length context place =
      (if place.endsLine then p.endLine start length context place.offset else p).arrive start length context
        place.offset :=
  rfl

/-- Before the span there is nothing that a window ends with. -/
theorem Reached.arrive (reached : Reached context read p) (before : place.offset < start)
    (shown : 0 < context ∨ 0 < length) : Reached context read (p.arrive start length context place.offset) := by
  obtain ⟨counted, most, full, starts, lineStart, after, unfinished⟩ := reached
  unfold Progress.arrive
  split
  next arrived =>
    have arrived : start + length - 1 ≤ place.offset := by simpa [unfinished] using arrived
    refine ⟨counted, most, full, starts, lineStart, after, ?_⟩
    simp only [after]
    exact decide_eq_false (by omega)
  next => exact ⟨counted, most, full, starts, lineStart, after, unfinished⟩

/-- A line end adds the start of its line to those that are kept, and drops the first where there are too many. -/
theorem Reached.endLine (reached : Reached context read p) {ending : List Char} (one : ending.count '\n' = 1)
    (here : place.offset + 1 = byteLength (read ++ ending)) (before : place.offset < start) :
    Reached context (read ++ ending) (p.endLine start length context place.offset) := by
  obtain ⟨counted, most, full, starts, lineStart, after, unfinished⟩ := reached
  have count : (read ++ ending).count '\n' = read.count '\n' + 1 := by rw [List.count_append, one]
  have cuts : ∀ index start, (p.starts ++ [p.lineStart])[index]? = some start →
      CutAt (read ++ ending) (p.line + index) start := by
    intro index start found
    rcases Nat.lt_trichotomy index p.starts.length with kept | rfl | past
    · rw [List.getElem?_append_left kept] at found
      exact (starts index start found).append ending
    · rw [List.getElem?_concat_length] at found
      cases found
      exact counted ▸ lineStart.append ending
    · rw [List.getElem?_eq_none (by simp; omega)] at found
      cases found
  have lineCut : CutAt (read ++ ending) ((read ++ ending).count '\n') (place.offset + 1) :=
    ⟨read ++ ending, [], (List.append_nil _).symm, here.symm, rfl⟩
  rw [Progress.endLine]
  simp only [before, if_true, keepStarts]
  -- Where there are too many starts the first is dropped and counted, so the sum stays that of all line ends.
  split
  next many =>
    rw [List.length_append, List.length_singleton] at many
    refine ⟨?_, ?_, Or.inr ?_, ?_, lineCut, after, unfinished⟩
    · simp only [List.length_drop, List.length_append, List.length_singleton, count]
      omega
    · simp only [List.length_drop, List.length_append, List.length_singleton]
      omega
    · simp only [List.length_drop, List.length_append, List.length_singleton]
      omega
    · intro index start found
      rw [List.getElem?_drop] at found
      rw [Nat.add_assoc]
      exact cuts (1 + index) start found
  next few =>
    rw [List.length_append, List.length_singleton] at few
    have none : p.line = 0 := by omega
    refine ⟨?_, ?_, Or.inl none, cuts, lineCut, after, unfinished⟩
    · simp only [List.length_append, List.length_singleton, count]
      omega
    · simp only [List.length_append, List.length_singleton]
      omega

theorem run_cons {places : List Place} (goes : (p.next start length context place).finished = false) :
    p.run start length context (place :: places) =
      (p.next start length context place).run start length context places := by
  rw [run]
  exact if_neg (by simp [goes])

theorem run_append {front : List Place} (back : List Place)
    (goes : (p.run start length context front).finished = false) :
    p.run start length context (front ++ back) = (p.run start length context front).run start length context back := by
  induction front generalizing p with
  | nil => rfl
  | cons place front ih =>
    cases next : (p.next start length context place).finished with
    | true =>
      rw [run] at goes
      simp only [next, if_true, Bool.true_eq_false] at goes
    | false =>
      rw [run_cons next] at goes
      rw [List.cons_append, run_cons next, run_cons next, ih goes]

theorem Reached.run_plain (reached : Reached context read p) {places : List Place}
    (plain : ∀ place ∈ places, place.endsLine = false ∧ place.offset < start) (shown : 0 < context ∨ 0 < length) :
    Reached context read (p.run start length context places) := by
  induction places generalizing p with
  | nil => exact reached
  | cons place places ih =>
    obtain ⟨⟨noEnd, before⟩, others⟩ := List.forall_mem_cons.mp plain
    have next : Reached context read (p.next start length context place) := by
      rw [next_eq_arrive, noEnd]
      exact reached.arrive before shown
    rw [run_cons next.unfinished]
    exact ih next others

theorem Reached.run_end (reached : Reached context read p) {ending : List Char} (one : ending.count '\n' = 1)
    (here : place.offset + 1 = byteLength (read ++ ending)) (ends : place.endsLine = true) (before : place.offset < start)
    (shown : 0 < context ∨ 0 < length) : Reached context (read ++ ending) (p.next start length context place) := by
  rw [next_eq_arrive, if_pos ends]
  exact (reached.endLine one here before).arrive before shown

/-- What is known once all that stands before the span is read. -/
theorem Reached.run {cs : List Char} (reached : Reached context read p) (paired : Paired cs)
    (short : byteLength (read ++ cs) ≤ start) (shown : 0 < context ∨ 0 < length) :
    Reached context (read ++ cs) (p.run start length context (placesFrom (byteLength read) cs)) := by
  have feedSize : '\n'.utf8Size = 1 := rfl
  induction paired generalizing read p with
  | nil => rwa [List.append_nil]
  | @pair cs _ ih =>
    have returnSize : '\r'.utf8Size = 1 := rfl
    have width : byteLength (read ++ ['\r', '\n']) = byteLength read + 2 := by
      simp [feedSize, returnSize]
    rw [show read ++ '\r' :: '\n' :: cs = (read ++ ['\r', '\n']) ++ cs by simp] at short ⊢
    rw [Text.byteLength_append, width] at short
    have next := @run_end context start length read p ⟨byteLength read + 1, true⟩ reached _ rfl width.symm rfl
      (by simp only; omega) shown
    rw [placesFrom, run_cons next.unfinished, ← width]
    exact ih next (by rw [Text.byteLength_append, width]; exact short)
  | @other c cs returns _ ih =>
    rw [List.append_cons] at short ⊢
    by_cases feeds : c = '\n'
    · subst feeds
      have width : byteLength (read ++ ['\n']) = byteLength read + 1 := by simp [feedSize]
      have before := Text.byteLength_append (read ++ ['\n']) cs
      have next := @run_end context start length read p ⟨byteLength read, true⟩ reached _ rfl width.symm rfl
        (by simp only; omega) shown
      rw [placesFrom_feed, run_cons next.unfinished, ← width]
      exact ih next short
    · have width : byteLength (read ++ [c]) = byteLength read + c.utf8Size := by simp
      have before := Text.byteLength_append (read ++ [c]) cs
      have same : (read ++ [c]).count '\n' = read.count '\n' := by simp [feeds]
      have within : Reached context read (p.run start length context
          ((List.range c.utf8Size).map fun index => ⟨byteLength read + index, false⟩)) := by
        refine reached.run_plain (fun place member => ?_) shown
        obtain ⟨index, below, rfl⟩ := List.mem_map.mp member
        have below := List.mem_range.mp below
        exact ⟨rfl, by simp only; omega⟩
      rw [placesFrom_plain returns feeds, run_append _ within.unfinished, ← width]
      exact ih (within.longer same) short

theorem endLine_behind {offset : Nat} (goes : p.finished = false) (behind : start ≤ offset) :
    (p.endLine start length context offset).line = p.line ∧ (p.endLine start length context offset).starts = p.starts ∧
      ((p.endLine start length context offset).finished = true → start + length - 1 ≤ offset) := by
  rw [Progress.endLine]
  simp only [if_neg (Nat.not_lt.mpr behind)]
  split
  next passed =>
    split
    next => exact ⟨rfl, rfl, fun _ => by omega⟩
    next => exact ⟨rfl, rfl, fun _ => by omega⟩
  next => exact ⟨rfl, rfl, fun finished => by simp [goes] at finished⟩

/-- A place behind the start of the span changes nothing that the window starts with, and none is the last before the
end of the span. -/
theorem next_behind (goes : p.finished = false) (behind : start ≤ place.offset) :
    (p.next start length context place).line = p.line ∧ (p.next start length context place).starts = p.starts ∧
      (p.next start length context place).offset = place.offset + 1 ∧
      ((p.next start length context place).finished = true → start + length - 1 ≤ place.offset) := by
  have arrive {q : Progress} (line : q.line = p.line) (starts : q.starts = p.starts)
      (far : q.finished = true → start + length - 1 ≤ place.offset) :
      (q.arrive start length context place.offset).line = p.line ∧
        (q.arrive start length context place.offset).starts = p.starts ∧
        (q.arrive start length context place.offset).offset = place.offset + 1 ∧
        ((q.arrive start length context place.offset).finished = true → start + length - 1 ≤ place.offset) := by
    rw [Progress.arrive]
    split
    next arrived =>
      rw [Bool.and_eq_true, decide_eq_true_eq] at arrived
      exact ⟨line, starts, rfl, fun _ => arrived.2⟩
    next => exact ⟨line, starts, rfl, far⟩
  rw [next_eq_arrive]
  split
  next =>
    obtain ⟨line, starts, far⟩ := @endLine_behind context start length p place.offset goes behind
    exact arrive line starts far
  next => exact arrive rfl rfl fun finished => by simp [goes] at finished

theorem run_behind {places : List Place} {last : Place} (goes : p.finished = false)
    (behind : ∀ place ∈ places, start ≤ place.offset) (ends : places.getLast? = some last) :
    ∃ place ∈ places, (p.run start length context places).line = p.line ∧
      (p.run start length context places).starts = p.starts ∧
      (p.run start length context places).offset = place.offset + 1 ∧
      (start + length - 1 ≤ place.offset ∨ place = last) := by
  induction places generalizing p with
  | nil => cases ends
  | cons place places ih =>
    obtain ⟨here, others⟩ := List.forall_mem_cons.mp behind
    obtain ⟨line, starts, offset, far⟩ := @next_behind context start length p place goes here
    -- A run stops at a place behind the end of the span, or at the last of all places.
    cases next : (p.next start length context place).finished with
    | true =>
      have stops : p.run start length context (place :: places) = p.next start length context place := by
        rw [run]
        exact if_pos next
      rw [stops]
      exact ⟨place, List.mem_cons_self, line, starts, offset, Or.inl (far next)⟩
    | false =>
      rw [run_cons next]
      by_cases none : places = []
      · subst none
        exact ⟨place, List.mem_cons_self, line, starts, offset, Or.inr (Option.some.inj ends)⟩
      · rw [List.getLast?_cons_of_ne_nil none] at ends
        obtain ⟨other, member, line', starts', rest⟩ := ih next others ends
        exact ⟨other, List.mem_cons_of_mem place member, line'.trans line, starts'.trans starts, rest⟩

end

end Progress

/-- The window of a span that a text stands before: it starts at the end of some lines, whose number it tells, and
shows what is left of the text and one character more, at least. -/
structure Window.Shows (window : Window) (before : List Char) (context : Nat) : Prop where
  line : window.line = before.count '\n' - context
  text : ∃ front shown rest, before = front ++ shown ∧ byteLength front = window.start ∧
    front.count '\n' = window.line ∧ window.text = shown ++ rest ∧ rest ≠ [] ∧ rest.getLast? ≠ some '\r'

theorem Progress.Reached.cut {context : Nat} {before : List Char} {p : Progress} (reached : p.Reached context before) :
    CutAt before p.line (p.starts.headD (if context = 0 then byteLength before else 0)) := by
  have counted := reached.counted
  cases kept : p.starts with
  | cons first rest => exact reached.starts 0 first (by rw [kept]; rfl)
  | nil =>
    rw [kept, List.length_nil, Nat.add_zero] at counted
    have full := reached.full
    rw [kept, List.length_nil] at full
    rw [List.headD_nil]
    split
    next => exact ⟨before, [], (List.append_nil before).symm, rfl, counted.symm⟩
    next some_ =>
      have none : p.line = 0 := full.resolve_right fun zero => some_ zero.symm
      exact ⟨[], before, rfl, rfl, none.symm⟩

theorem Window.read?_eq_some {before after : List Char} {c : Char} {length context : Nat}
    (paired : Paired (before ++ c :: after)) (whole : before.getLast? ≠ some '\r')
    (inside : byteLength before + length ≤ byteLength (before ++ c :: after)) (shown : 0 < context ∨ 0 < length) :
    ∃ window, read? (before ++ c :: after) (byteLength before) length context = some window ∧
      window.Shows before context := by
  obtain ⟨front, back⟩ := paired.cut whole
  -- First all that stands before the span is read, then places behind its start up to the last that is shown.
  have reached := @Progress.Reached.run context (byteLength before) length [] {} before
    (Progress.reached_start context) front (Nat.le_refl _) shown
  rw [List.nil_append, Text.byteLength_nil] at reached
  obtain ⟨last, ends, lastEnd⟩ := @placesFrom_getLast? (byteLength before) _ back (List.cons_ne_nil c after)
  have behind : ∀ place ∈ placesFrom (byteLength before) (c :: after), byteLength before ≤ place.offset := by
    intro place member
    obtain ⟨_, _, _, count, _, _, least, _, here⟩ := mem_placesFrom back member
    omega
  obtain ⟨place, member, line, starts, offset, far⟩ :=
    @Progress.run_behind context (byteLength before) length _ _ last reached.unfinished behind ends
  obtain ⟨read, d, unread, count, split, other, least, most, here⟩ := mem_placesFrom back member
  have places : placesFrom 0 (before ++ c :: after) =
      placesFrom 0 before ++ placesFrom (byteLength before) (c :: after) := by
    rw [placesFrom_append front, Nat.zero_add]
  have covered : byteLength before + length - 1 ≤ place.offset + 1 := by
    rw [Text.byteLength_append] at inside
    rcases far with far | rfl
    · omega
    · omega
  obtain ⟨hidden, held, rfl, width, ended⟩ := reached.cut
  obtain ⟨last', cut, shownLast⟩ := @cutBytes_last (byteLength (hidden ++ (held ++ read))) (byteLength hidden)
    (place.offset + 1) count d unread (by simp) least most (by simp only [Text.byteLength_append] at here ⊢; omega)
  have text : cutBytes (byteLength hidden) (place.offset + 1) 0 (hidden ++ held ++ c :: after) =
      held ++ (read ++ [last']) := by
    simp only [Text.byteLength_append] at here cut
    rw [split, show hidden ++ held ++ (read ++ d :: unread) = hidden ++ ((held ++ read) ++ d :: unread) by simp,
      cutBytes_before _ (by omega), cutBytes_within _ (by omega) (by simp only [Text.byteLength_append]; omega),
      Text.byteLength_append, Nat.zero_add, cut, List.append_assoc]
  rw [read?, places, Progress.run_append _ reached.unfinished]
  simp only [offset, line, starts]
  rw [if_pos covered, ← width]
  refine ⟨_, rfl, ?_, hidden, held, read ++ [last'], rfl, rfl, ended, text, by simp, ?_⟩
  · have counted := reached.counted
    have kept := reached.most
    have full := reached.full
    simp only
    omega
  · rw [List.getLast?_concat]
    rintro same
    cases same
    rcases shownLast with rfl | mark
    · exact other rfl
    · revert mark
      decide

end Excerpt

end Stencil
