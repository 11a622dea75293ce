/-! Finding, replacing and splitting inside a text. -/

set_option autoImplicit false

namespace Stencil.Text

def contains (part : List Char) : List Char → Bool
  | [] => part.isEmpty
  | c :: cs => part.isPrefixOf (c :: cs) || contains part cs

/-- The text before the first pair `a b`, and the text after that pair. -/
def splitAtPair (a b : Char) : List Char → Option (List Char × List Char)
  | c :: d :: rest =>
    if c = a ∧ d = b then some ([], rest)
    else (splitAtPair a b (d :: rest)).map fun (before, after) => (c :: before, after)
  | _ => none

theorem splitAtPair_eq_some {a b : Char} {cs before after : List Char}
    (h : splitAtPair a b cs = some (before, after)) : cs = before ++ a :: b :: after := by
  induction cs generalizing before with
  | nil => simp [splitAtPair] at h
  | cons c cs ih =>
    cases cs with
    | nil => simp [splitAtPair] at h
    | cons d rest =>
      rw [splitAtPair] at h
      split at h
      next eqs =>
        obtain ⟨rfl, rfl⟩ := eqs
        simp only [Option.some.injEq, Prod.mk.injEq] at h
        obtain ⟨rfl, rfl⟩ := h
        rfl
      next =>
        obtain ⟨⟨first, last⟩, found, eq⟩ := Option.map_eq_some_iff.1 h
        simp only [Prod.mk.injEq] at eq
        obtain ⟨rfl, rfl⟩ := eq
        rw [ih found]
        rfl

/-- Replaces the occurrences of a non-empty pattern, from the left and without overlap,
after passing over `skip` characters that an occurrence covers. -/
def replaceFrom (pattern replacement : List Char) : Nat → List Char → List Char
  | _, [] => []
  | skip + 1, _ :: cs => replaceFrom pattern replacement skip cs
  | 0, c :: cs =>
    if pattern.isPrefixOf (c :: cs) then replacement ++ replaceFrom pattern replacement (pattern.length - 1) cs
    else c :: replaceFrom pattern replacement 0 cs

/-- Replaces every occurrence of a pattern; the empty pattern occurs around each character. -/
def replace (pattern replacement cs : List Char) : List Char :=
  if pattern.isEmpty then replacement ++ cs.flatMap (· :: replacement)
  else replaceFrom pattern replacement 0 cs

/-- The pieces between the separators; a text without one is a single piece. -/
def splitOn (separator : Char) : List Char → List (List Char)
  | [] => [[]]
  | c :: cs =>
    if c = separator then [] :: splitOn separator cs
    else match splitOn separator cs with
      | [] => [[c]]
      | piece :: pieces => (c :: piece) :: pieces

theorem splitOn_ne_nil (separator : Char) (cs : List Char) : splitOn separator cs ≠ [] := by
  cases cs with
  | nil => simp [splitOn]
  | cons c cs =>
    rw [splitOn]
    split
    · simp
    · split <;> simp

/-- Joining the pieces by the separator gives the text back. -/
theorem intercalate_splitOn (separator : Char) (cs : List Char) :
    [separator].intercalate (splitOn separator cs) = cs := by
  induction cs with
  | nil => rfl
  | cons c cs ih =>
    rw [splitOn]
    rcases split : splitOn separator cs with _ | ⟨piece, _ | ⟨next, pieces⟩⟩
    · exact absurd split (splitOn_ne_nil separator cs)
    all_goals
      rw [split] at ih
      by_cases same : c = separator <;> simp_all [List.intercalate, List.intersperse]

theorem splitOn_eq (separator : Char) (cs : List Char) : splitOn separator cs = cs.splitOn separator := by
  induction cs with
  | nil => rfl
  | cons c cs ih =>
    rw [splitOn, List.splitOn_cons_eq_if_modifyHead, ih]
    by_cases same : c = separator
    · rw [if_pos same, if_pos (beq_iff_eq.mpr same)]
    · rw [if_neg same, if_neg (fun eq => same (beq_iff_eq.mp eq))]
      cases pieces : cs.splitOn separator with
      | nil => exact absurd pieces (List.splitOn_ne_nil separator cs)
      | cons => rfl

theorem not_mem_of_mem_splitOn {separator : Char} {cs piece : List Char} (member : piece ∈ splitOn separator cs) :
    separator ∉ piece := by
  induction cs generalizing piece with
  | nil => rw [List.mem_singleton.mp member]; exact List.not_mem_nil
  | cons c cs ih =>
    rw [splitOn] at member
    split at member
    next =>
      rcases List.mem_cons.mp member with rfl | later
      · exact List.not_mem_nil
      · exact ih later
    next other =>
      cases split : splitOn separator cs with
      | nil => exact absurd split (splitOn_ne_nil separator cs)
      | cons first pieces =>
        rw [split] at member ih
        rcases List.mem_cons.mp member with rfl | later
        · intro among
          rcases List.mem_cons.mp among with same | among
          · exact other same.symm
          · exact ih List.mem_cons_self among
        · exact ih (List.mem_cons_of_mem first later)

theorem subset_of_mem_splitOn {separator : Char} {cs piece : List Char} (member : piece ∈ splitOn separator cs) :
    piece ⊆ cs := by
  induction cs generalizing piece with
  | nil => rw [List.mem_singleton.mp member]; exact List.nil_subset _
  | cons c cs ih =>
    rw [splitOn] at member
    split at member
    next =>
      rcases List.mem_cons.mp member with rfl | later
      · exact List.nil_subset _
      · exact List.Subset.trans (ih later) (List.subset_cons_self c cs)
    next =>
      cases split : splitOn separator cs with
      | nil => exact absurd split (splitOn_ne_nil separator cs)
      | cons first pieces =>
        rw [split] at member ih
        rcases List.mem_cons.mp member with rfl | later
        · exact List.cons_subset_cons c (ih List.mem_cons_self)
        · exact List.Subset.trans (ih (List.mem_cons_of_mem first later)) (List.subset_cons_self c cs)

/-- A text without the separator is one piece. -/
theorem splitOn_of_not_mem {separator : Char} {cs : List Char} (whole : separator ∉ cs) :
    splitOn separator cs = [cs] := by
  rw [splitOn_eq]
  exact List.splitOn_eq_singleton whole

/-- Lines that stand before others, each with its end. -/
theorem splitOn_lines_append {lines : List (List Char)} (whole : ∀ line ∈ lines, '\n' ∉ line) (cs : List Char) :
    splitOn '\n' (lines.flatMap (· ++ ['\n']) ++ cs) = lines ++ splitOn '\n' cs := by
  induction lines with
  | nil => rfl
  | cons line lines ih =>
    obtain ⟨here, others⟩ := List.forall_mem_cons.mp whole
    rw [List.flatMap_cons, List.append_assoc, List.append_assoc, List.singleton_append, splitOn_eq,
      List.splitOn_append_cons_self, ← splitOn_eq, ← splitOn_eq, ih others, splitOn_of_not_mem here]
    rfl

/-- The text before the first separator and the text after it. -/
def splitFirst (separator : Char) : List Char → Option (List Char × List Char)
  | [] => none
  | c :: cs =>
    if c = separator then some ([], cs)
    else (splitFirst separator cs).map fun (before, after) => (c :: before, after)

theorem splitFirst_append {separator : Char} {before : List Char} (whole : separator ∉ before) (after : List Char) :
    splitFirst separator (before ++ separator :: after) = some (before, after) := by
  induction before with
  | nil => exact if_pos rfl
  | cons c before ih =>
    have other : c ≠ separator := fun same => whole (same ▸ List.mem_cons_self)
    rw [List.cons_append, splitFirst, if_neg other, ih fun member => whole (List.mem_cons_of_mem c member)]
    rfl

end Stencil.Text
