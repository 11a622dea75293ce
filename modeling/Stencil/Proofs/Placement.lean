import Mathlib.Data.List.Infix
import Stencil.Span

/-! Where pieces of a text stand: byte positions compared with splits of the text. -/

set_option autoImplicit false

namespace Stencil.Text

/-- A text stands at a byte position of a source. -/
def StandsAt (source : List Char) (position : Nat) (text : List Char) : Prop :=
  ∃ before after, source = before ++ text ++ after ∧ byteLength before = position

theorem byteLength_eq_zero {cs : List Char} : byteLength cs = 0 ↔ cs = [] := by
  cases cs with
  | nil => simp
  | cons c cs =>
    have pos := c.utf8Size_pos
    simp only [byteLength_cons, reduceCtorEq, iff_false]
    omega

/-- Of two fronts of a text the one with fewer bytes is a front of the other. -/
theorem prefix_of_byteLength_le {before rest before' rest' : List Char} (split : before ++ rest = before' ++ rest')
    (le : byteLength before ≤ byteLength before') : before <+: before' := by
  rcases List.append_eq_append_iff.mp split with ⟨more, longer, -⟩ | ⟨more, rfl, -⟩
  · exact ⟨more, longer.symm⟩
  · rw [byteLength_append] at le
    have none : more = [] := byteLength_eq_zero.mp (by omega)
    rw [none, List.append_nil]

@[simp] theorem byteLength_reverse (cs : List Char) : byteLength cs.reverse = byteLength cs := by
  induction cs with
  | nil => rfl
  | cons c cs ih =>
    simp only [List.reverse_cons, byteLength_append, ih, byteLength_cons, byteLength_nil]
    omega

theorem utf8ByteSize_ofList (cs : List Char) : (String.ofList cs).utf8ByteSize = byteLength cs := by
  induction cs with
  | nil => rfl
  | cons c cs ih =>
    have split : String.ofList (c :: cs) = String.singleton c ++ String.ofList cs := by
      rw [String.singleton_eq_ofList, ← String.ofList_append]; rfl
    rw [split, String.utf8ByteSize_append, String.utf8ByteSize_singleton, ih, byteLength_cons]

theorem byteLength_toList (s : String) : byteLength s.toList = s.utf8ByteSize := by
  rw [← utf8ByteSize_ofList, String.ofList_toList]

theorem standsAt_append_add {before rest text : List Char} {position : Nat} :
    StandsAt (before ++ rest) (byteLength before + position) text ↔ StandsAt rest position text := by
  constructor
  · rintro ⟨first, after, split, width⟩
    rw [List.append_assoc] at split
    rcases List.append_eq_append_iff.mp split with ⟨more, rfl, tails⟩ | ⟨more, rfl, tails⟩
    · refine ⟨more, after, by rw [tails, List.append_assoc], ?_⟩
      rw [byteLength_append] at width
      omega
    · -- A shorter front has too few bytes, unless nothing is missing from it.
      rw [byteLength_append] at width
      have empty : more = [] := byteLength_eq_zero.mp (by omega)
      have start : position = 0 := by rw [empty] at width; simpa using width
      subst empty start
      exact ⟨[], after, by simpa using tails.symm, rfl⟩
  · rintro ⟨first, after, rfl, rfl⟩
    exact ⟨before ++ first, after, by simp, by simp⟩

theorem standsAt_zero {source text : List Char} : StandsAt source 0 text ↔ text <+: source := by
  constructor
  · rintro ⟨before, after, rfl, width⟩
    rw [byteLength_eq_zero.mp width]
    exact ⟨after, rfl⟩
  · rintro ⟨after, rfl⟩
    exact ⟨[], after, rfl, rfl⟩

theorem standsAt_append {before rest text : List Char} :
    StandsAt (before ++ rest) (byteLength before) text ↔ text <+: rest := by
  rw [← standsAt_zero]
  exact @standsAt_append_add before rest text 0

/-- A position of a text is its start or a position behind its first character. -/
theorem standsAt_cons {c : Char} {cs text : List Char} {position : Nat} :
    StandsAt (c :: cs) position text ↔
      (position = 0 ∧ text <+: c :: cs) ∨
        ∃ next, position = c.utf8Size + next ∧ StandsAt cs next text := by
  have behind (next : Nat) : StandsAt (c :: cs) (c.utf8Size + next) text ↔ StandsAt cs next text :=
    @standsAt_append_add [c] cs text next
  constructor
  · intro stands
    obtain ⟨before, after, split, width⟩ := stands
    cases before with
    | nil => exact Or.inl ⟨width.symm, after, split.symm⟩
    | cons b before =>
      obtain ⟨rfl, tails⟩ := List.cons.inj split
      exact Or.inr ⟨byteLength before, width.symm, before, after, tails, rfl⟩
  · rintro (⟨rfl, start⟩ | ⟨next, rfl, stands⟩)
    · exact standsAt_zero.mpr start
    · exact (behind next).mpr stands

theorem StandsAt.left {source as bs : List Char} {position : Nat} (stands : StandsAt source position (as ++ bs)) :
    StandsAt source position as := by
  obtain ⟨before, after, rfl, rfl⟩ := stands
  exact ⟨before, bs ++ after, by simp, rfl⟩

theorem StandsAt.right {source as bs : List Char} {position : Nat} (stands : StandsAt source position (as ++ bs)) :
    StandsAt source (position + byteLength as) bs := by
  obtain ⟨before, after, rfl, rfl⟩ := stands
  exact ⟨before ++ as, after, by simp, by simp⟩

theorem StandsAt.append {source text : List Char} {position : Nat} (stands : StandsAt source position text)
    (more : List Char) : StandsAt (source ++ more) position text := by
  obtain ⟨before, after, rfl, width⟩ := stands
  exact ⟨before, after ++ more, by simp only [List.append_assoc], width⟩

theorem StandsAt.le {source text : List Char} {position : Nat} (stands : StandsAt source position text) :
    position + byteLength text ≤ byteLength source := by
  obtain ⟨before, after, rfl, rfl⟩ := stands
  simp only [byteLength_append]
  omega

theorem standsAt_nil {text : List Char} {position : Nat} (stands : StandsAt [] position text) :
    text = [] := by
  obtain ⟨before, after, split, _⟩ := stands
  simp only [List.nil_eq, List.append_eq_nil_iff] at split
  exact split.1.2

/-- No text stands inside a character. -/
theorem StandsAt.behind {source text : List Char} {c : Char} {position other : Nat}
    (here : StandsAt source position [c]) (stands : StandsAt source other text) (later : position < other) :
    position + c.utf8Size ≤ other := by
  obtain ⟨before, after, rfl, rfl⟩ := here
  obtain ⟨offset, rfl⟩ := Nat.exists_eq_add_of_lt later
  -- Behind the start of the character, every position of the rest is one behind the character.
  rw [List.append_assoc, Nat.add_assoc, standsAt_append_add, List.singleton_append, standsAt_cons] at stands
  rcases stands with ⟨zero, -⟩ | ⟨next, eq, -⟩ <;> omega

theorem mem_iff_standsAt {c : Char} {as bs : List Char} :
    c ∈ as ↔ ∃ position, position < byteLength as ∧ StandsAt (as ++ bs) position [c] := by
  constructor
  · intro member
    obtain ⟨before, after, rfl⟩ := List.append_of_mem member
    have pos := c.utf8Size_pos
    exact ⟨byteLength before, by simp only [byteLength_append, byteLength_cons]; omega,
      before, after ++ bs, by simp, rfl⟩
  · rintro ⟨_, short, before, after, split, rfl⟩
    rw [List.append_assoc] at split
    rcases List.append_eq_append_iff.mp split with ⟨more, rfl, -⟩ | ⟨more, rfl, tails⟩
    · rw [byteLength_append] at short
      omega
    · cases more with
      | nil => simp at short
      | cons d more =>
        obtain ⟨rfl, -⟩ := List.cons.inj tails
        simp

theorem dropBytes?_eq_some {cs rest : List Char} {n : Nat} (cut : dropBytes? cs n = some rest) :
    ∃ before, cs = before ++ rest ∧ byteLength before = n := by
  fun_induction dropBytes? cs n with
  | case1 cs =>
    cases cut
    exact ⟨[], rfl, rfl⟩
  | case2 => cases cut
  | case3 c cs n fits ih =>
    obtain ⟨before, rfl, width⟩ := ih cut
    exact ⟨c :: before, rfl, by rw [byteLength_cons]; omega⟩
  | case4 => cases cut

theorem takeBytes?_eq_some {cs front : List Char} {n : Nat} (cut : takeBytes? cs n = some front) :
    ∃ after, cs = front ++ after ∧ byteLength front = n := by
  fun_induction takeBytes? cs n generalizing front with
  | case1 cs =>
    cases cut
    exact ⟨cs, rfl, rfl⟩
  | case2 => cases cut
  | case3 c cs n fits ih =>
    obtain ⟨front, found, rfl⟩ := Option.map_eq_some_iff.mp cut
    obtain ⟨after, rfl, width⟩ := ih found
    exact ⟨after, rfl, by rw [byteLength_cons]; omega⟩
  | case4 => cases cut

/-- A piece that is read by the offsets of its ends stands at the first and ends at the second. -/
theorem standsAt_of_sliceBytes? {cs text : List Char} {start stop : Nat}
    (sliced : sliceBytes? cs start stop = some text) : StandsAt cs start text ∧ stop = start + byteLength text := by
  rw [sliceBytes?] at sliced
  split at sliced
  next ordered =>
    obtain ⟨rest, dropped, taken⟩ := Option.bind_eq_some_iff.mp sliced
    obtain ⟨before, rfl, rfl⟩ := dropBytes?_eq_some dropped
    obtain ⟨after, rfl, width⟩ := takeBytes?_eq_some taken
    exact ⟨⟨before, after, (List.append_assoc _ _ _).symm, rfl⟩, by omega⟩
  next => cases sliced

end Stencil.Text

namespace Stencil.Span

open Text (byteLength)

/-- The line and column of a span are those behind the text before it. -/
theorem lineColumn_of_split {source : String} {before after : List Char} {stop : Nat}
    (split : source.toList = before ++ after) : lineColumn ⟨byteLength before, stop⟩ source = positionAfter before := by
  have inside : min (byteLength before) (byteLength (before ++ after)) = byteLength before := by
    rw [Text.byteLength_append]
    omega
  simp only [lineColumn, split, inside, Text.takeBytes?_append, Option.getD_some]

/-- A piece of a source is read back by its span. -/
theorem slice?_of_split {source : String} {before text after : List Char}
    (split : source.toList = before ++ text ++ after) :
    slice? ⟨byteLength before, byteLength before + byteLength text⟩ source = some (String.ofList text) := by
  rw [slice?, split, Text.sliceBytes?_append]
  rfl

end Stencil.Span
