import Stencil.Text.Wrap

/-! Wrapping a paragraph adds nothing to it but its margins and blanks. -/

set_option autoImplicit false

namespace Stencil.Text

variable {cs : List Char}

theorem glyphsFrom_subset {pending : Option (EscapePart × List Char)} {rest : List Char}
    (held : ∀ p ∈ pending, p.2 ⊆ cs) (left : rest ⊆ cs) : ∀ glyph ∈ glyphsFrom pending rest, glyph.text ⊆ cs := by
  fun_induction glyphsFrom pending rest <;> simp_all [Glyph.text]

theorem glyphs_subset (cs : List Char) : ∀ glyph ∈ glyphs cs, glyph.text ⊆ cs :=
  glyphsFrom_subset nofun (List.Subset.refl cs)

theorem piecesFrom_subset {piece lead : List Char} {cut : Bool} {rest : List Glyph} {breaks : List Bool}
    (held : piece ⊆ cs) (before : lead ⊆ cs) (left : ∀ glyph ∈ rest, glyph.text ⊆ cs) :
    ∀ part ∈ piecesFrom piece lead cut rest breaks, part ⊆ cs := by
  fun_induction piecesFrom piece lead cut rest breaks <;> simp_all [Glyph.text]

theorem wordsOf_subset (line : List Char) : ∀ word ∈ wordsOf line, word.text ⊆ line := by
  intro word member
  obtain ⟨piece, cut, rfl⟩ := List.mem_map.mp member
  have whole := piecesFrom_subset (List.nil_subset line) (List.nil_subset line) (glyphs_subset line) piece cut
  exact fun c among => whole (List.mem_of_mem_take among)

theorem hyphenPieces_subset {piece rest : List Char} (held : piece ⊆ cs) (left : rest ⊆ cs) :
    ∀ part ∈ hyphenPieces piece rest, part ⊆ cs := by
  fun_induction hyphenPieces piece rest <;> simp_all

theorem chunks_subset {limit width : Nat} {piece : List Char} {rest : List Glyph} (held : piece ⊆ cs)
    (left : ∀ glyph ∈ rest, glyph.text ⊆ cs) : ∀ part ∈ chunks limit piece width rest, part ⊆ cs := by
  fun_induction chunks limit piece width rest <;> simp_all [Glyph.text]

theorem wordPieces_subset {blanks : Nat} {pieces : List (List Char)} (all : ∀ piece ∈ pieces, piece ⊆ cs) :
    ∀ word ∈ wordPieces blanks pieces, word.text ⊆ cs := by
  fun_induction wordPieces blanks pieces <;> simp_all

theorem Word.split_subset (limit : Nat) (word : Word) : ∀ part ∈ word.split limit, part.text ⊆ word.text := by
  intro part member
  obtain ⟨whole, hyphenated, member⟩ := List.mem_flatMap.mp member
  have within : whole.text ⊆ word.text :=
    wordPieces_subset (hyphenPieces_subset (List.nil_subset _) (List.Subset.refl _)) whole hyphenated
  split at member
  next =>
    have chunked := wordPieces_subset (chunks_subset (List.nil_subset _) (glyphs_subset whole.text)) part member
    exact List.Subset.trans chunked within
  next => rwa [List.mem_singleton.mp member]

theorem fitFrom_subset {limit later width : Nat} {line words : List Word} (held : ∀ word ∈ line, word.text ⊆ cs)
    (left : ∀ word ∈ words, word.text ⊆ cs) :
    ∀ fit ∈ fitFrom limit later line width words, ∀ word ∈ fit, word.text ⊆ cs := by
  fun_induction fitFrom limit later line width words with
  | case1 => simpa using held
  | case2 limit line width word words _ ih =>
    obtain ⟨here, others⟩ := List.forall_mem_cons.mp left
    exact List.forall_mem_cons.mpr ⟨by simpa using held, ih (List.forall_mem_singleton.mpr here) others⟩
  | case3 limit line width word words _ ih =>
    obtain ⟨here, others⟩ := List.forall_mem_cons.mp left
    exact ih (List.forall_mem_cons.mpr ⟨here, held⟩) others

theorem lineText_mem {words : List Word} (all : ∀ word ∈ words, word.text ⊆ cs) :
    ∀ c ∈ lineText words, c = ' ' ∨ c ∈ cs := by
  fun_induction lineText words with
  | case1 => exact nofun
  | case2 word => exact fun c among => Or.inr (List.forall_mem_singleton.mp all among)
  | case3 word words _ ih =>
    obtain ⟨here, others⟩ := List.forall_mem_cons.mp all
    refine List.forall_mem_append.mpr ⟨List.forall_mem_append.mpr ⟨fun c among => Or.inr (here among), ?_⟩, ih others⟩
    exact fun c blank => Or.inl (List.eq_of_mem_replicate blank)

/-- The lines of a paragraph hold characters of the paragraph and blanks. -/
theorem Margins.wrapLine_mem (margins : Margins) (line : List Char) :
    ∀ row ∈ margins.wrapLine line, ∀ c ∈ row, c = ' ' ∨ c ∈ line := by
  intro row member
  obtain ⟨words, fit, rfl⟩ := List.mem_map.mp member
  refine lineText_mem (fitFrom_subset (List.forall_mem_nil _)
    (List.forall_mem_cons.mpr ⟨List.nil_subset _, ?_⟩) words fit)
  intro part member
  obtain ⟨word, among, member⟩ := List.mem_flatMap.mp member
  exact List.Subset.trans (Word.split_subset _ word part member) (wordsOf_subset line word among)

/-- A row starts with a margin, and behind that it holds blanks and characters of the paragraph that end no line. -/
theorem Margins.wrap_mem (margins : Margins) (text : List Char) : ∀ row ∈ margins.wrap text, ∃ rest,
    (row = margins.first ++ rest ∨ row = margins.later ++ rest) ∧ ∀ c ∈ rest, c = ' ' ∨ c ∈ text ∧ c ≠ '\n' := by
  have held : ∀ rest ∈ (splitOn '\n' text).flatMap margins.wrapLine, ∀ c ∈ rest, c = ' ' ∨ c ∈ text ∧ c ≠ '\n' := by
    intro rest member c among
    obtain ⟨line, cut, member⟩ := List.mem_flatMap.mp member
    refine (margins.wrapLine_mem line rest member c among).imp_right fun here => ?_
    exact ⟨subset_of_mem_splitOn cut here, fun newline => not_mem_of_mem_splitOn cut (newline ▸ here)⟩
  intro row member
  unfold wrap at member
  split at member
  next => cases member
  next line lines split =>
    rw [split] at held
    obtain ⟨first, others⟩ := List.forall_mem_cons.mp held
    rcases List.mem_cons.mp member with rfl | later
    · exact ⟨line, Or.inl rfl, first⟩
    · obtain ⟨rest, among, rfl⟩ := List.mem_map.mp later
      exact ⟨rest, Or.inr rfl, others rest among⟩

end Stencil.Text
