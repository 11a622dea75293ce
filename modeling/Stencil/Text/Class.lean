import Stencil.Text.Alphanumeric

/-! The classes of characters that template text is read by. -/

set_option autoImplicit false

namespace Stencil.Text

/-- The characters with the Unicode property White_Space. -/
def isBlank (c : Char) : Bool :=
  let n := c.toNat
  (9 ≤ n && n ≤ 13) || n == 0x20 || n == 0x85 || n == 0xA0 || n == 0x1680 ||
    (0x2000 ≤ n && n ≤ 0x200A) || n == 0x2028 || n == 0x2029 || n == 0x202F || n == 0x205F || n == 0x3000

/-- An ASCII digit. -/
def isDigit (c : Char) : Bool := '0' ≤ c && c ≤ '9'

def isLetter (c : Char) : Bool :=
  if c.toNat < 128 then c.isAlpha else letterChars.contains c

/-- A letter or number of any script. -/
def isAlphanumeric (c : Char) : Bool :=
  if c.toNat < 128 then c.isAlphanum else letterChars.contains c || numberChars.contains c

/-- A character of a name: a letter, a number or an underscore. -/
def isWord (c : Char) : Bool := isAlphanumeric c || c == '_'

theorem isAlphanumeric_of_isDigit {c : Char} (h : isDigit c = true) : isAlphanumeric c = true := by
  simp only [isDigit, Bool.and_eq_true, decide_eq_true_eq] at h
  have low : 48 ≤ c.toNat := h.1
  have high : c.toNat ≤ 57 := h.2
  have small : c.toNat < 128 := by omega
  have digit : c.isDigit = true := by
    simp only [Char.isDigit, Bool.and_eq_true, decide_eq_true_eq]
    exact ⟨h.1, h.2⟩
  simp [isAlphanumeric, small, Char.isAlphanum, digit]

/-- Drops blanks from both ends. -/
def trim (cs : List Char) : List Char :=
  ((cs.dropWhile isBlank).reverse.dropWhile isBlank).reverse

/-- Drops blanks from the end. -/
def trimEnd (cs : List Char) : List Char :=
  (cs.reverse.dropWhile isBlank).reverse

theorem run_stop {p : Char → Bool} {run rest : List Char} (inside : ∀ c ∈ run, p c = true)
    (stop : ∀ c, rest.head? = some c → p c = false) :
    (run ++ rest).takeWhile p = run ∧ (run ++ rest).dropWhile p = rest := by
  rw [List.takeWhile_append_of_pos inside, List.dropWhile_append_of_pos inside]
  match rest, stop with
  | [], _ => simp
  | c :: rest, stop => simp [stop c rfl]

/-- Blanks around a text that neither starts nor ends with one are what is dropped. -/
theorem trim_run {front cs back : List Char} (before : ∀ c ∈ front, isBlank c = true)
    (behind : ∀ c ∈ back, isBlank c = true) (first : ∀ c, (cs ++ back).head? = some c → isBlank c = false)
    (last : ∀ c, cs.getLast? = some c → isBlank c = false) : trim (front ++ (cs ++ back)) = cs := by
  have backwards : (back.reverse ++ cs.reverse).dropWhile isBlank = cs.reverse := by
    refine (run_stop (fun c member => behind c (List.mem_reverse.mp member)) fun c head => last c ?_).2
    rwa [List.head?_reverse] at head
  rw [trim, (run_stop before first).2, List.reverse_append, backwards, List.reverse_reverse]

end Stencil.Text
