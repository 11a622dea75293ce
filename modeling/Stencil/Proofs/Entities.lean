import Mathlib.Logic.Function.Basic
import Stencil.Text.Markup

/-! Escaped text: what tells it from other text, and how it is read back whatever it was made from. -/

set_option autoImplicit false

namespace Stencil.Text

/-- The entities of the characters with a meaning in markup. -/
def entities : List (List Char) :=
  ["&amp;".toList, "&lt;".toList, "&gt;".toList, "&quot;".toList, "&#x27;".toList]

/-- Of the characters with a meaning in markup there are only ampersands, and each of them begins an entity. -/
structure Clean (cs : List Char) : Prop where
  bare : ∀ c ∈ cs, c ∉ ['<', '>', '"', '\'']
  begins : ∀ rest, '&' :: rest <:+ cs → ∃ name ∈ entities, name <+: '&' :: rest

/-- The text with its entities read back. -/
def unescape (text : String) : String := String.ofList (unescapeChars text.toList)

section
variable {c : Char} {cs ds : List Char}

theorem entity_of_plain (plain : c ∉ ['&', '<', '>', '"', '\'']) : entity c = [c] := by
  simp only [List.mem_cons, List.not_mem_nil, or_false, not_or] at plain
  simp [entity, plain]

/-- A character is written as itself or as an entity, which has an ampersand only at its start. -/
theorem entity_cases (c : Char) : entity c = [c] ∧ c ≠ '&' ∨
    ∃ name, entity c = '&' :: name ∧ '&' ∉ name ∧ entity c ∈ entities := by
  fun_cases entity c with
  | case6 c other => exact Or.inl ⟨rfl, other⟩
  | _ => exact Or.inr ⟨_, rfl, by decide, by decide⟩

theorem entity_ne_nil (c : Char) : entity c ≠ [] := by
  fun_cases entity c <;> exact List.cons_ne_nil _ _

theorem exists_entity {name : List Char} (among : name ∈ entities) : ∃ c, entity c = name := by
  simp only [entities, List.mem_cons, List.not_mem_nil, or_false] at among
  rcases among with rfl | rfl | rfl | rfl | rfl
  · exact ⟨'&', rfl⟩
  · exact ⟨'<', rfl⟩
  · exact ⟨'>', rfl⟩
  · exact ⟨'"', rfl⟩
  · exact ⟨'\'', rfl⟩

theorem escapeChars_cons (c : Char) (cs : List Char) : escapeChars (c :: cs) = entity c ++ escapeChars cs :=
  List.flatMap_cons

theorem unescapeChars_cons (other : c ≠ '&') (cs : List Char) : unescapeChars (c :: cs) = c :: unescapeChars cs := by
  simp [unescapeChars, other]

/-- What is written for a character is read as the character, whatever follows it. -/
theorem unescapeChars_entity (c : Char) (rest : List Char) :
    unescapeChars (entity c ++ rest) = c :: unescapeChars rest := by
  fun_cases entity c with
  | case6 c other => exact unescapeChars_cons other rest
  | _ => rfl

theorem unescapeChars_escapeChars (cs : List Char) : unescapeChars (escapeChars cs) = cs := by
  induction cs with
  | nil => rfl
  | cons c cs ih => rw [escapeChars_cons, unescapeChars_entity, ih]

/-- The ampersand of an entity in the text is itself written as one, and is not read with what follows it. -/
example : escapeChars "&lt;'&".toList = "&amp;lt;&#x27;&amp;".toList ∧
    unescapeChars "&amp;lt;&#x27;&amp;".toList = "&lt;'&".toList := by decide +kernel

theorem suffix_of_not_mem {tail : List Char} (none : c ∉ cs) (suffix : c :: tail <:+ cs ++ ds) : c :: tail <:+ ds := by
  induction cs with
  | nil => exact suffix
  | cons d cs ih =>
    obtain ⟨other, later⟩ := List.ne_and_not_mem_of_not_mem_cons none
    rcases List.suffix_cons_iff.mp suffix with same | suffix
    · exact absurd (List.cons.inj same).1 other
    · exact ih later suffix

theorem Clean.of_suffix (clean : Clean ds) (suffix : cs <:+ ds) : Clean cs :=
  ⟨fun c member => clean.bare c (suffix.subset member), fun rest begun => clean.begins rest (begun.trans suffix)⟩

/-- Text stays clean with what is written for a character in front. -/
theorem Clean.entity_append (clean : Clean cs) (c : Char) : Clean (entity c ++ cs) where
  bare d member := (List.mem_append.mp member).elim (entity_bare c d) (clean.bare d)
  begins rest begun := by
    rcases entity_cases c with ⟨plain, other⟩ | ⟨name, written, single, among⟩
    · rw [plain] at begun
      exact clean.begins rest (suffix_of_not_mem (List.not_mem_cons_of_ne_of_not_mem other.symm List.not_mem_nil) begun)
    · rw [written, List.cons_append, List.suffix_cons_iff] at begun
      rcases begun with start | inside
      · -- The only ampersand of an entity begins that entity.
        refine ⟨entity c, among, ?_⟩
        rw [start, written, ← List.cons_append]
        exact List.prefix_append _ _
      · exact clean.begins rest (suffix_of_not_mem single inside)

theorem clean_escapeChars (cs : List Char) : Clean (escapeChars cs) := by
  induction cs with
  | nil => exact ⟨nofun, fun rest begun => absurd (List.suffix_nil.mp begun) (List.cons_ne_nil _ _)⟩
  | cons c cs ih =>
    rw [escapeChars_cons]
    exact ih.entity_append c

/-- Clean text starts with what is written for a character. -/
theorem Clean.exists_entity_prefix (clean : Clean (c :: cs)) : ∃ d, entity d <+: c :: cs := by
  by_cases ampersand : c = '&'
  · subst ampersand
    obtain ⟨name, among, begun⟩ := clean.begins cs List.suffix_rfl
    obtain ⟨d, rfl⟩ := exists_entity among
    exact ⟨d, begun⟩
  · have written : entity c = [c] :=
      entity_of_plain (List.not_mem_cons_of_ne_of_not_mem ampersand (clean.bare c List.mem_cons_self))
    exact ⟨c, cs, by rw [written, List.singleton_append]⟩

/-- Clean text is what is written for the characters of some text, one after the other. -/
theorem Clean.exists_escapeChars {cs : List Char} (clean : Clean cs) : ∃ ds, escapeChars ds = cs := by
  cases cs with
  | nil => exact ⟨[], rfl⟩
  | cons c cs =>
    obtain ⟨d, rest, written⟩ := clean.exists_entity_prefix
    -- What stands behind the first of them is shorter, and it is clean as well.
    have shorter : rest.length < (c :: cs).length := by
      have first : 0 < (entity d).length := List.length_pos_iff.mpr (entity_ne_nil d)
      rw [← written, List.length_append]
      omega
    obtain ⟨ds, rfl⟩ := Clean.exists_escapeChars (clean.of_suffix ⟨entity d, written⟩)
    exact ⟨d :: ds, written⟩
termination_by cs.length

/-- Escaped texts are just the clean ones. -/
theorem clean_iff : Clean cs ↔ escapeChars (unescapeChars cs) = cs := by
  constructor
  · intro clean
    obtain ⟨ds, rfl⟩ := clean.exists_escapeChars
    rw [unescapeChars_escapeChars]
  · intro same
    rw [← same]
    exact clean_escapeChars (unescapeChars cs)

instance (cs : List Char) : Decidable (Clean cs) := decidable_of_iff _ clean_iff.symm

example : Clean "a&amp;lt;&#x27;".toList ∧ ¬Clean "a&lt".toList ∧ ¬Clean "&lt;b>".toList := by decide +kernel

end

theorem escape_append (s t : String) : escape (s ++ t) = escape s ++ escape t := by
  rw [escape, String.toList_append, escapeChars_append, String.ofList_append, escape, escape]

theorem clean_escape (text : String) : Clean (escape text).toList := by
  rw [escape, String.toList_ofList]
  exact clean_escapeChars text.toList

theorem unescape_escape (text : String) : unescape (escape text) = text := by
  rw [unescape, escape, String.toList_ofList, unescapeChars_escapeChars, String.ofList_toList]

/-- Escaping goes piece by piece and leaves clean text. One pass from the left that reads the entities undoes it, also
where the text had entities before, so that no two texts are escaped alike. -/
theorem escape_reversible (s t : String) : escape (s ++ t) = escape s ++ escape t ∧ Clean (escape s).toList ∧
    unescape (escape s) = s ∧ (escape s = escape t ↔ s = t) := by
  have inverse : Function.LeftInverse unescape escape := unescape_escape
  exact ⟨escape_append s t, clean_escape s, inverse s, inverse.injective.eq_iff⟩

end Stencil.Text
