import Stencil.Excerpt.Line

/-! The numbers of shown lines: a place has the number of the line that it stands on, counted in line ends before it. -/

set_option autoImplicit false

namespace Stencil.Excerpt

open Text (byteLength)

variable {number start : Nat} {pending : List Char}

theorem Line.newline_not_mem_text {cs : List Char} (held : '\n' ∉ pending) :
    ∀ line ∈ ofTextFrom number start pending cs, '\n' ∉ line.text := by
  fun_induction ofTextFrom number start pending cs
  case case1 => exact nofun
  case case2 ih =>
    exact List.forall_mem_cons.mpr ⟨fun newline => held (List.mem_reverse.mp newline), ih List.not_mem_nil⟩
  case case3 ih =>
    exact List.forall_mem_cons.mpr ⟨fun newline => held (List.mem_reverse.mp newline), ih List.not_mem_nil⟩
  case case4 c other =>
    refine List.forall_mem_singleton.mpr fun newline => ?_
    rcases List.mem_cons.mp (List.mem_reverse.mp newline) with same | newline
    · exact other same.symm
    · exact held newline
  case case5 c cs _ other more ih =>
    exact ih fun newline => (List.mem_cons.mp newline).elim (fun same => other same.symm) held

/-- The first line reaches past what is already held of it, and its number is the next. -/
theorem Line.ofTextFrom_eq_cons {cs : List Char} (some_ : cs ≠ []) (ended : cs.getLast? ≠ some '\r') :
    ∃ line rest, ofTextFrom number start pending cs = line :: rest ∧ line.number = number + 1 ∧ line.start = start ∧
      byteLength pending < line.length := by
  fun_induction ofTextFrom number start pending cs with
  | case1 => exact absurd rfl some_
  | case2 => exact ⟨_, _, rfl, rfl, rfl, Nat.lt_add_of_pos_right Nat.two_pos⟩
  | case3 => exact ⟨_, _, rfl, rfl, rfl, Nat.lt_succ_self _⟩
  | case4 number start pending c =>
    have shown : c ≠ '\r' := fun same => ended (congrArg some same)
    exact ⟨_, _, rfl, by rw [if_neg shown], rfl, Nat.lt_add_of_pos_left c.utf8Size_pos⟩
  | case5 number start pending c cs _ _ more ih =>
    rw [List.getLast?_cons_of_ne_nil more] at ended
    obtain ⟨line, rest, lines, numbered, begins, reaches⟩ := ih more ended
    exact ⟨line, rest, lines, numbered, begins, Nat.lt_of_le_of_lt (Nat.le_add_left _ c.utf8Size) reaches⟩

theorem Line.ofTextFrom_plain {c : Char} {cs : List Char} (other : c ≠ '\n') (more : cs ≠ [])
    (alone : c = '\r' → cs.head? ≠ some '\n') :
    ofTextFrom number start pending (c :: cs) = ofTextFrom number start (c :: pending) cs := by
  rw [ofTextFrom]
  · exact fun rest returns feed => alone returns (by rw [feed]; rfl)
  · exact other
  · exact more

/-- The front of a text makes some lines, and what is left of it belongs to the first line of the rest. -/
theorem Line.ofTextFrom_append {front back : List Char} (more : back ≠ []) (whole : front.getLast? ≠ some '\r') :
    ∃ lines first held, ofTextFrom number start pending (front ++ back) =
        lines ++ ofTextFrom (number + front.count '\n') first held back ∧
      first + byteLength held = start + byteLength pending + byteLength front := by
  have returns : '\r'.utf8Size = 1 := rfl
  have feeds : '\n'.utf8Size = 1 := rfl
  fun_induction ofTextFrom number start pending front
  case case1 number start pending => exact ⟨[], start, pending, rfl, rfl⟩
  case case2 number start pending cs length ih =>
    obtain ⟨lines, first, held, split, width⟩ := ih fun last => whole (by simp [List.getLast?_cons, last])
    refine ⟨⟨number + 1, start, length, pending.reverse⟩ :: lines, first, held, ?_, ?_⟩
    · have counted : number + (cs.count '\n' + 1) = number + 1 + cs.count '\n' := by omega
      rw [List.count_cons_of_ne (by decide), List.count_cons_self, counted]
      exact congrArg (List.cons _) split
    · rw [width, show length = byteLength pending + 2 from rfl]
      simp only [Text.byteLength_cons, Text.byteLength_nil, returns, feeds]
      omega
  case case3 number start pending cs length ih =>
    obtain ⟨lines, first, held, split, width⟩ := ih fun last => whole (by simp [List.getLast?_cons, last])
    refine ⟨⟨number + 1, start, length, pending.reverse⟩ :: lines, first, held, ?_, ?_⟩
    · have counted : number + (cs.count '\n' + 1) = number + 1 + cs.count '\n' := by omega
      rw [List.count_cons_self, counted]
      exact congrArg (List.cons _) split
    · rw [width, show length = byteLength pending + 1 from rfl]
      simp only [Text.byteLength_cons, Text.byteLength_nil, feeds]
      omega
  case case4 number start pending d other =>
    have plain : d ≠ '\r' := fun same => whole (congrArg some same)
    refine ⟨[], start, d :: pending, ?_, ?_⟩
    · rw [List.singleton_append, ofTextFrom_plain other more fun same => absurd same plain, List.count_cons_of_ne other]
      rfl
    · simp only [Text.byteLength_cons, Text.byteLength_nil]
      omega
  case case5 number start pending d cs unpaired other longer ih =>
    obtain ⟨e, rest, rfl⟩ := List.exists_cons_of_ne_nil longer
    obtain ⟨lines, first, held, split, width⟩ := ih (by rwa [List.getLast?_cons_cons] at whole)
    refine ⟨lines, first, held, ?_, ?_⟩
    · rw [List.count_cons_of_ne other, ← split, List.cons_append, ofTextFrom_plain other (by simp)]
      exact fun same feed => unpaired rest same (by cases feed; rfl)
    · rw [width]
      simp only [Text.byteLength_cons]
      omega

/-- The line on which a text goes on behind its front has one more than the line ends of the front as its number. -/
theorem Line.exists_ofTextFrom {front back : List Char} (more : back ≠ []) (whole : front.getLast? ≠ some '\r')
    (ended : back.getLast? ≠ some '\r') :
    ∃ line ∈ ofTextFrom number start [] (front ++ back), line.number = number + front.count '\n' + 1 ∧
      line.start ≤ start + byteLength front ∧ start + byteLength front < line.stop := by
  obtain ⟨lines, first, held, split, width⟩ := @ofTextFrom_append number start [] front back more whole
  obtain ⟨line, rest, goes, numbered, begins, reaches⟩ :=
    @ofTextFrom_eq_cons (number + front.count '\n') first held back more ended
  rw [Text.byteLength_nil] at width
  refine ⟨line, by rw [split, goes]; simp, numbered, ?_, ?_⟩
  · omega
  · rw [stop]
    omega

end Stencil.Excerpt
