import Stencil.Excerpt.Layout
import Stencil.Proofs.Windows

/-! The one excerpt that shows spans which start on the same line. -/

set_option autoImplicit false

namespace Stencil.Excerpt

open Text (byteLength Paired)

/-- The head of a sorted list is not behind any of its items. -/
theorem mergeSort_eq_cons {α : Type} {le : α → α → Bool} (trans : ∀ a b c, le a b → le b c → le a c)
    (total : ∀ a b, le a b || le b a) {items : List α} (some_ : items ≠ []) :
    ∃ first rest, items.mergeSort le = first :: rest ∧ first ∈ items ∧
      (∀ item ∈ rest, item ∈ items ∧ le first item) ∧ ∀ item ∈ items, le first item := by
  have sorted := List.pairwise_mergeSort trans total items
  have members (item : α) : item ∈ items.mergeSort le ↔ item ∈ items := List.mem_mergeSort
  cases split : items.mergeSort le with
  | nil =>
    obtain ⟨item, member⟩ := List.exists_mem_of_ne_nil items some_
    rw [← members, split] at member
    cases member
  | cons first rest =>
    rw [split] at sorted members
    obtain ⟨least, -⟩ := List.pairwise_cons.mp sorted
    refine ⟨first, rest, rfl, (members first).mp List.mem_cons_self, fun item member => ?_, fun item member => ?_⟩
    · exact ⟨(members item).mp (List.mem_cons_of_mem first member), least item member⟩
    · rcases List.mem_cons.mp ((members item).mpr member) with rfl | later
      · simpa using total item item
      · exact least item later

/-- A span starts on the line that so many line ends stand before, neither at the end of the source nor between a
carriage return and its line feed, and it ends in the source. -/
def OnLine (source : List Char) (ends start length : Nat) : Prop :=
  ∃ before c after, source = before ++ c :: after ∧ byteLength before = start ∧ before.count '\n' = ends ∧
    before.getLast? ≠ some '\r' ∧ start + length ≤ byteLength source

theorem OnLine.inside {source : List Char} {ends start length : Nat} (on : OnLine source ends start length) :
    start + length ≤ byteLength source := by
  obtain ⟨_, _, _, _, _, _, _, inside⟩ := on
  exact inside

/-- A stretch that starts on a line of the source, with what is shown of it. -/
structure Stretch.Reads (source : List Char) (ends context : Nat) (stretch : Stretch) : Prop where
  on : OnLine source ends stretch.start stretch.length
  shown : 0 < context ∨ 0 < stretch.length
  read : Stretch.read? source stretch.start stretch.length context = some stretch

section
variable {source : List Char} {ends context : Nat}

theorem OnLine.window {start length : Nat} (on : OnLine source ends start length) (paired : Paired source)
    (shown : 0 < context ∨ 0 < length) : ∃ before window, byteLength before = start ∧ before.count '\n' = ends ∧
      before.getLast? ≠ some '\r' ∧ Window.read? source start length context = some window ∧
      window.Shows before context := by
  obtain ⟨before, c, after, rfl, rfl, rfl, whole, inside⟩ := on
  obtain ⟨window, read, shows⟩ := Window.read?_eq_some paired whole inside shown
  exact ⟨before, window, rfl, rfl, whole, read, shows⟩

theorem OnLine.stretch {start length : Nat} (on : OnLine source ends start length) (paired : Paired source)
    (shown : 0 < context ∨ 0 < length) : ∃ stretch, Stretch.read? source start length context = some stretch ∧
      stretch.start = start ∧ stretch.length = length ∧ stretch.Reads source ends context := by
  obtain ⟨before, window, -, -, -, read, -⟩ := on.window paired shown
  have made : Stretch.read? source start length context = some ⟨start, length, window⟩ := by
    rw [Stretch.read?, read]
    rfl
  exact ⟨_, made, rfl, rfl, on, shown, made⟩

/-- As many lines are shown before one stretch of a line as before another. -/
theorem Stretch.Reads.line {stretch : Stretch} (reads : stretch.Reads source ends context) (paired : Paired source) :
    stretch.window.line = ends - context := by
  obtain ⟨before, window, -, count, -, read, shows⟩ := reads.on.window paired reads.shown
  have made := reads.read
  rw [Stretch.read?, read] at made
  rw [← Option.some.inj made, ← count]
  exact shows.line

/-- Two stretches of a line are joined to one. -/
theorem joinStretch_eq {last next : Stretch} (paired : Paired source) (left : last.Reads source ends context)
    (right : next.Reads source ends context) :
    ∃ both, joinStretch source context next [last] = [both] ∧ both.start = last.start ∧
      both.Reads source ends context := by
  have insideLeft := left.on.inside
  have insideRight := right.on.inside
  have longer : 0 < context ∨
      0 < max (last.start + last.length) (next.start + next.length) - last.start := by
    rcases left.shown with shown | shown
    · exact Or.inl shown
    · exact Or.inr (by omega)
  have on : OnLine source ends last.start
      (max (last.start + last.length) (next.start + next.length) - last.start) := by
    obtain ⟨before, c, after, split, width, count, whole, -⟩ := left.on
    exact ⟨before, c, after, split, width, count, whole, by omega⟩
  obtain ⟨both, read, start, -, reads⟩ := on.stretch paired longer
  refine ⟨both, ?_, start, reads⟩
  -- The window of each starts with the same line, so they always meet.
  have meet : next.window.line ≤ last.window.line + last.window.lineEnds := by
    rw [left.line paired, right.line paired]
    exact Nat.le_add_right _ _
  simp only [joinStretch, if_pos meet, read]

/-- Spans on one line are shown in one stretch, from the first of them on. -/
theorem stretches_eq_ok (paired : Paired source) {last : Stretch} {annotations : List Annotation}
    (reads : last.Reads source ends context)
    (all : ∀ a ∈ annotations, OnLine source ends a.start a.length ∧ (0 < context ∨ 0 < a.length)) :
    ∃ both, stretches source context [last] annotations = .ok [both] ∧ both.start = last.start ∧
      both.Reads source ends context := by
  induction annotations generalizing last with
  | nil => exact ⟨last, rfl, rfl, reads⟩
  | cons a annotations ih =>
    obtain ⟨⟨on, shown⟩, others⟩ := List.forall_mem_cons.mp all
    obtain ⟨next, read, -, -, nextReads⟩ := on.stretch paired shown
    obtain ⟨joined, join, start, joinedReads⟩ := joinStretch_eq paired reads nextReads
    obtain ⟨both, done, start', bothReads⟩ := ih joinedReads others
    refine ⟨both, ?_, start'.trans start, bothReads⟩
    rw [stretches, read]
    simp only [join, done]

end

section
variable {source : List Char} {ends context : Nat} {annotations : List Annotation}

/-- The lines of a window of a span: the first is not behind the line of the span, and that has its own number. -/
theorem Window.Shows.lines {before : List Char} {context : Nat} {window : Window}
    (shows : window.Shows before context) (whole : before.getLast? ≠ some '\r') :
    (∃ head rest, Line.ofWindow window = head :: rest ∧ head.number ≤ before.count '\n' + 1) ∧
      ∃ line ∈ Line.ofWindow window, line.start ≤ byteLength before ∧ byteLength before < line.stop ∧
        line.number = before.count '\n' + 1 := by
  obtain ⟨front, shown, rest, rfl, width, count, text, some_, ended⟩ := shows.text
  have shownWhole : shown.getLast? ≠ some '\r' := fun last => whole (by rw [List.getLast?_append, last]; rfl)
  have windowWhole : window.text.getLast? ≠ some '\r' := by
    rwa [text, List.getLast?_append_of_ne_nil _ some_]
  constructor
  · obtain ⟨head, others, lines, number, -⟩ :=
      @Line.ofTextFrom_eq_cons window.line window.start [] window.text (by simp [text, some_]) windowWhole
    refine ⟨head, others, lines, ?_⟩
    rw [number, ← count, List.count_append]
    omega
  · obtain ⟨line, member, number, begins, reaches⟩ :=
      @Line.exists_ofTextFrom window.line window.start shown rest some_ shownWhole ended
    rw [← width, ← Text.byteLength_append] at begins reaches
    refine ⟨line, ?_, begins, reaches, ?_⟩
    · rw [Line.ofWindow, text]
      exact member
    · rw [number, ← count, List.count_append]

/-- Spans that start on the same line are shown in one excerpt, in which that line has its own number. -/
theorem rows_eq (paired : Paired source) (some_ : annotations ≠ [])
    (all : ∀ a ∈ annotations, OnLine source ends a.start a.length ∧ (0 < context ∨ 0 < a.length)) :
    ∃ first ∈ annotations, (∀ a ∈ annotations, first.start ≤ a.start) ∧ ∃ length window sorted,
      Window.read? source first.start length context = some window ∧ (∀ a ∈ sorted, a ∈ annotations) ∧
      rows source context annotations = (Canvas.ofLines (Line.ofWindow window) sorted).rows (Line.ofWindow window) ∧
      (∃ head rest, Line.ofWindow window = head :: rest ∧ head.number ≤ ends + 1) ∧
      ∃ line ∈ Line.ofWindow window, first.startsOn line = true ∧ line.number = ends + 1 := by
  obtain ⟨first, rest, sorted, member, others, least⟩ :=
    @mergeSort_eq_cons Annotation (fun a b => decide (a.start ≤ b.start))
      (fun a b c => by simpa using Nat.le_trans) (fun a b => by simpa using Nat.le_total a.start b.start) _ some_
  obtain ⟨on, shown⟩ := all first member
  obtain ⟨next, read, start, -, reads⟩ := on.stretch paired shown
  obtain ⟨both, done, start', bothReads⟩ := stretches_eq_ok paired reads fun a later => all a (others a later).1
  obtain ⟨before, window, width, count, whole, windowRead, shows⟩ := bothReads.on.window paired bothReads.shown
  have made := bothReads.read
  rw [Stretch.read?, windowRead] at made
  have sameWindow := congrArg Stretch.window (Option.some.inj made)
  obtain ⟨head, line, onLine, begins, reaches, number⟩ := shows.lines whole
  refine ⟨first, member, fun a among => by simpa using least a among, both.length, window, first :: rest, ?_, ?_, ?_,
    ?_, line, onLine, ?_, ?_⟩
  · rwa [start', start] at windowRead
  · exact List.forall_mem_cons.mpr ⟨member, fun a later => (others a later).1⟩
  · simp only [rows, sorted, stretches, read, joinStretch, done, List.flatMap_singleton]
    rw [← sameWindow]
  · rwa [count] at head
  · unfold Annotation.startsOn
    rw [Bool.and_eq_true, decide_eq_true_eq, decide_eq_true_eq, ← start, ← start', ← width]
    exact ⟨begins, reaches⟩
  · rw [number, count]

end

end Stencil.Excerpt
