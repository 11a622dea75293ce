/-! Text made safe for markup: the five characters with a meaning there are written as entities. -/

set_option autoImplicit false

namespace Stencil.Text

/-- The entity of a character with a meaning in markup, and any other character as it is. -/
def entity : Char → List Char
  | '&' => ['&', 'a', 'm', 'p', ';']
  | '<' => ['&', 'l', 't', ';']
  | '>' => ['&', 'g', 't', ';']
  | '"' => ['&', 'q', 'u', 'o', 't', ';']
  | '\'' => ['&', '#', 'x', '2', '7', ';']
  | c => [c]

/-- Writes every character with a meaning in markup as its entity. -/
def escapeChars (cs : List Char) : List Char := cs.flatMap entity

@[simp] theorem escapeChars_append (as bs : List Char) :
    escapeChars (as ++ bs) = escapeChars as ++ escapeChars bs := by
  simp [escapeChars]

/-- Reads the five entities back, from the left and in one pass. -/
def unescapeChars : List Char → List Char
  | '&' :: 'a' :: 'm' :: 'p' :: ';' :: cs => '&' :: unescapeChars cs
  | '&' :: 'l' :: 't' :: ';' :: cs => '<' :: unescapeChars cs
  | '&' :: 'g' :: 't' :: ';' :: cs => '>' :: unescapeChars cs
  | '&' :: 'q' :: 'u' :: 'o' :: 't' :: ';' :: cs => '"' :: unescapeChars cs
  | '&' :: '#' :: 'x' :: '2' :: '7' :: ';' :: cs => '\'' :: unescapeChars cs
  | c :: cs => c :: unescapeChars cs
  | [] => []

/-- The text with its markup characters written as entities. -/
def escape (text : String) : String := String.ofList (escapeChars text.toList)

theorem entity_bare (c : Char) : ∀ d ∈ entity c, d ∉ ['<', '>', '"', '\''] := by
  by_cases marked : c ∈ ['<', '>', '"', '\'']
  · simp only [List.mem_cons, List.not_mem_nil, or_false] at marked
    rcases marked with rfl | rfl | rfl | rfl <;> simp [entity]
  · unfold entity
    split
    -- The one entity that is left is that of the ampersand.
    next => simp
    next => simp at marked
    next => simp at marked
    next => simp at marked
    next => simp at marked
    next => exact List.forall_mem_singleton.mpr marked

/-- Text without characters that have a meaning in markup stays as it is. -/
theorem escape_of_plain {text : String} (plain : ∀ c ∈ text.toList, entity c = [c]) : escape text = text := by
  rw [escape, escapeChars, List.flatMap_def, List.map_congr_left plain, ← List.flatMap_def, List.flatMap_singleton',
    String.ofList_toList]

/-- Escaped text delimits neither tags nor quoted text. -/
theorem escape_bare (text : String) : ∀ c ∈ (escape text).toList, c ∉ ['<', '>', '"', '\''] := by
  intro c member
  rw [escape, String.toList_ofList] at member
  obtain ⟨d, -, member⟩ := List.mem_flatMap.mp member
  exact entity_bare d c member

end Stencil.Text
