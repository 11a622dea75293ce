import Stencil.Text.Quoted
import Stencil.Toml.Quoted

/-! Listed text read back by the rules of text literals, and the listing of Latin-1 text that names all that is not
printable. -/

set_option autoImplicit false

namespace Stencil.Text

/-- The character that a letter or mark after a backslash stands for. -/
def letterEscape? : Char → Option Char
  | '\\' => some '\\'
  | '\'' => some '\''
  | '"' => some '"'
  | 'a' => some '\x07'
  | 'b' => some '\x08'
  | 'f' => some '\x0c'
  | 'n' => some '\n'
  | 'r' => some '\r'
  | 't' => some '\t'
  | 'v' => some '\x0b'
  | _ => none

def isOctal (c : Char) : Bool := '0' ≤ c && c ≤ '7'

/-- What stands for the text after a backslash, and how many characters of it are taken: a letter escape, a code point in
two, four or eight hexadecimal digits or in up to three octal ones, or nothing for a line end. A backslash before another
character stands for itself. Characters given by name are not read. -/
def escape? : List Char → Option (List Char × Nat)
  | [] => none
  | c :: cs =>
    match letterEscape? c with
    | some char => some ([char], 1)
    | none =>
      let numbered (count : Nat) :=
        if count ≤ cs.length then (Toml.codePoint? (cs.take count)).map ([·], count + 1) else none
      let octal := ((c :: cs).take 3).takeWhile isOctal
      if c = 'x' then numbered 2
      else if c = 'u' then numbered 4
      else if c = 'U' then numbered 8
      else if c = 'N' ∨ c = '\r' then none
      else if c = '\n' then some ([], 1)
      else if octal.isEmpty then some (['\\', c], 1)
      else some ([Char.ofNat (octal.foldl (fun n digit => n * 8 + (digit.toNat - 48)) 0)], octal.length)

/-- Reads a literal up to its closing quote mark, after passing over `skip` characters. -/
def readBody? (mark : Char) : (skip : Nat) → List Char → Option (List Char × List Char)
  | _, [] => none
  | skip + 1, _ :: cs => readBody? mark skip cs
  | 0, c :: cs =>
    if c = mark then some ([], cs)
    else if c = '\\' then
      match escape? cs with
      | some (piece, length) => (readBody? mark length cs).map fun (text, rest) => (piece ++ text, rest)
      | none => none
    else if c = '\n' ∨ c = '\r' ∨ c = '\x00' then none
    else (readBody? mark 0 cs).map fun (text, rest) => (c :: text, rest)

/-- Reads the text literal at the start of a text, in either kind of quote marks; gives also what follows it. -/
def readLiteral? : List Char → Option (List Char × List Char)
  | [] => none
  | c :: cs => if c = '"' ∨ c = '\'' then readBody? c 0 cs else none

/-- The text that a literal stands for. -/
def ofLiteral? (literal : String) : Option String :=
  match readLiteral? literal.toList with
  | some (text, []) => some (String.ofList text)
  | _ => none

/-- A printable character below U+0100. -/
def IsPrintable (c : Char) : Prop := 0x20 ≤ c.toNat ∧ c.toNat ≤ 0x7E ∨ 0xA1 ≤ c.toNat ∧ c.toNat ≤ 0xFF ∧ c.toNat ≠ 0xAD

instance : DecidablePred IsPrintable := fun _ => inferInstanceAs (Decidable (_ ∨ _))

/-- The form of a character below U+0100 between quote marks: a backslash before the mark and the backslash, a letter for
the line ends and the tab, and a code point for whatever else is not printable. -/
def latinChar (mark c : Char) : List Char :=
  if c = '\\' ∨ c = mark then ['\\', c]
  else if c = '\n' then ['\\', 'n']
  else if c = '\r' then ['\\', 'r']
  else if c = '\t' then ['\\', 't']
  else if IsPrintable c then [c]
  else ['\\', 'x', hexDigit (c.toNat / 16), hexDigit (c.toNat % 16)]

/-- The listing of a text of characters below U+0100, in double quotes if it has a single quote and no double one. -/
def latinListing (text : List Char) : List Char :=
  let mark := if '\'' ∈ text ∧ '"' ∉ text then '"' else '\''
  mark :: (text.flatMap (latinChar mark) ++ [mark])

/-- A character that a listing shows as it is although it is not printable: a control from U+0080 on, the blank that does
not break and the hyphen that may be left out. -/
def IsShownUnprintable (c : Char) : Prop := 0x80 ≤ c.toNat ∧ c.toNat ≤ 0xA0 ∨ c.toNat = 0xAD

instance : DecidablePred IsShownUnprintable := fun _ => inferInstanceAs (Decidable (_ ∨ _))

section
variable {mark c : Char}

theorem quoteMark_eq (cs : List Char) : quoteMark cs = '"' ∨ quoteMark cs = '\'' := by
  rw [quoteMark]
  split
  next => exact Or.inl rfl
  next => exact Or.inr rfl

theorem readBody?_behind (cs rest : List Char) : readBody? mark cs.length (cs ++ rest) = readBody? mark 0 rest := by
  induction cs with
  | nil => rfl
  | cons c cs ih => exact ih

/-- A backslash is read together with the characters that its escape takes. -/
theorem readBody?_escape (other : mark ≠ '\\') {cs piece rest : List Char}
    (escaped : escape? (cs ++ rest) = some (piece, cs.length)) : readBody? mark 0 ('\\' :: (cs ++ rest)) =
      (readBody? mark 0 rest).map fun (text, rest) => (piece ++ text, rest) := by
  simp only [readBody?, if_neg other.symm, if_pos, escaped, readBody?_behind]

theorem escape?_hexDigits {n : Nat} (small : n < 0x80) (rest : List Char) :
    escape? (['x', hexDigit (n / 16), hexDigit (n % 16)] ++ rest) = some ([Char.ofNat n], 3) := by
  have digits : Toml.codePoint? [hexDigit (n / 16), hexDigit (n % 16)] = some (Char.ofNat n) := by
    revert n
    decide +kernel
  simp [escape?, letterEscape?, digits]

/-- The form of a character is read as the character. -/
theorem readBody?_quoteChar (quotes : mark = '"' ∨ mark = '\'') (c : Char) (rest : List Char) :
    readBody? mark 0 (quoteChar mark c ++ rest) = (readBody? mark 0 rest).map fun (text, rest) => (c :: text, rest) := by
  have other : mark ≠ '\\' := by rcases quotes with rfl | rfl <;> decide
  have letter (d : Char) (escaped : escape? ([d] ++ rest) = some ([c], 1)) :
      readBody? mark 0 (['\\', d] ++ rest) = (readBody? mark 0 rest).map fun (text, rest) => (c :: text, rest) :=
    readBody?_escape other escaped
  unfold quoteChar
  split
  next same => subst same; exact letter '\\' rfl
  split
  next same => subst same; exact letter 'n' rfl
  split
  next same => subst same; exact letter 'r' rfl
  split
  next same => subst same; exact letter 't' rfl
  split
  next same => subst same; exact letter c (by rcases quotes with rfl | rfl <;> rfl)
  split
  next control =>
    have escaped := escape?_hexDigits (n := c.toNat) (by omega) rest
    rw [Char.ofNat_toNat] at escaped
    exact readBody?_escape other escaped
  next backslash newline return_ _ unmarked printable =>
    have zero : c ≠ '\x00' := fun same => printable (Or.inl (same ▸ by decide))
    simp [readBody?, backslash, newline, return_, unmarked, zero]

/-- A listed text is read as the text, whatever follows it. -/
theorem readLiteral?_quoteChars (cs rest : List Char) : readLiteral? (quoteChars cs ++ rest) = some (cs, rest) := by
  have quotes := quoteMark_eq cs
  rw [quoteChars]
  generalize quoteMark cs = mark at quotes
  have body : readBody? mark 0 (cs.flatMap (quoteChar mark) ++ mark :: rest) = some (cs, rest) := by
    induction cs with
    | nil => rw [List.flatMap_nil, List.nil_append, readBody?, if_pos rfl]
    | cons c cs ih => rw [List.flatMap_cons, List.append_assoc, readBody?_quoteChar quotes, ih, Option.map_some]
  simpa [readLiteral?, quotes] using body

theorem quoteChars_append_inj {cs ds rest others : List Char} (same : quoteChars cs ++ rest = quoteChars ds ++ others) :
    cs = ds ∧ rest = others := by
  have read := readLiteral?_quoteChars cs rest
  rw [same, readLiteral?_quoteChars] at read
  exact (Prod.mk.inj (Option.some.inj read)).imp Eq.symm Eq.symm

theorem ofLiteral?_quote (text : String) : ofLiteral? (quote text) = some text := by
  have read := readLiteral?_quoteChars text.toList []
  rw [List.append_nil] at read
  rw [ofLiteral?, quote, String.toList_ofList, read]
  exact congrArg some String.ofList_toList

theorem quoteChar_eq_latinChar (quotes : mark = '"' ∨ mark = '\'') (latin : c.toNat < 0x100)
    (plain : ¬IsShownUnprintable c) : quoteChar mark c = latinChar mark c := by
  have control : c.toNat < 0x20 ∨ c.toNat = 0x7F ↔ ¬IsPrintable c := by
    unfold IsShownUnprintable at plain
    unfold IsPrintable
    omega
  unfold quoteChar latinChar
  by_cases same : c = mark
  · subst same
    rcases quotes with rfl | rfl <;> rfl
  · by_cases backslash : c = '\\' <;> simp [same, control, backslash]

theorem quoteChar_ne_latinChar (quotes : mark = '"' ∨ mark = '\'') (shown : IsShownUnprintable c)
    (cs ds : List Char) : quoteChar mark c ++ cs ≠ latinChar mark c ++ ds := by
  unfold IsShownUnprintable at shown
  have other (d : Char) (low : d.toNat < 0x80) : c ≠ d := by
    rintro rfl
    omega
  have unmarked : c ≠ mark := by rcases quotes with rfl | rfl <;> exact other _ (by decide)
  have unprintable : ¬IsPrintable c := by
    unfold IsPrintable
    omega
  have backslash := other '\\' (by decide)
  have raw : quoteChar mark c = [c] := by
    unfold quoteChar
    simp [backslash, unmarked, other '\n' (by decide), other '\r' (by decide), other '\t' (by decide)]
    omega
  have escaped : latinChar mark c = ['\\', 'x', hexDigit (c.toNat / 16), hexDigit (c.toNat % 16)] := by
    unfold latinChar
    simp [backslash, unmarked, other '\n' (by decide), other '\r' (by decide), other '\t' (by decide), unprintable]
  rw [raw, escaped]
  exact fun same => backslash (List.cons.inj same).1

end

/-- A text of characters below U+0100 is listed with all that is not printable named exactly if it has none of the
characters from U+0080 to U+00A0 and no U+00AD, which are shown as they are. -/
theorem quote_eq_latinListing_iff {text : String} (latin : ∀ c ∈ text.toList, c.toNat < 0x100) :
    (quote text).toList = latinListing text.toList ↔ ∀ c ∈ text.toList, ¬IsShownUnprintable c := by
  have mark : (if '\'' ∈ text.toList ∧ '"' ∉ text.toList then '"' else '\'') = quoteMark text.toList := by
    simp [quoteMark]
  have quotes := quoteMark_eq text.toList
  rw [quote, String.toList_ofList, quoteChars, latinListing, mark]
  generalize quoteMark text.toList = mark at quotes
  generalize text.toList = cs at latin
  rw [List.cons_append, List.cons.injEq, List.append_left_inj, and_iff_right rfl]
  induction cs with
  | nil => simp
  | cons c cs ih =>
    obtain ⟨here, others⟩ := List.forall_mem_cons.mp latin
    rw [List.flatMap_cons, List.flatMap_cons, List.forall_mem_cons]
    constructor
    · intro same
      have plain : ¬IsShownUnprintable c := fun shown => quoteChar_ne_latinChar quotes shown _ _ same
      rw [quoteChar_eq_latinChar quotes here plain] at same
      exact ⟨plain, (ih others).mp (List.append_cancel_left same)⟩
    · rintro ⟨plain, later⟩
      rw [quoteChar_eq_latinChar quotes here plain, (ih others).mpr later]

theorem forall_mem_of_all {P : Char → Prop} [DecidablePred P] {cs : List Char} (all : cs.all (P ·) = true) :
    ∀ c ∈ cs, P c :=
  fun c member => of_decide_eq_true (List.all_eq_true.mp all c member)

/-- A text with both quote marks, what is named by a letter and by a code point, and a letter that is shown. -/
theorem quote_eq_latinListing_mixed :
    let text := "it's \"\x7f\"\té"
    (∀ c ∈ text.toList, c.toNat < 0x100) ∧ (∀ c ∈ text.toList, ¬IsShownUnprintable c) ∧
      quote text = "'it\\'s \"\\x7f\"\\té'" ∧ (quote text).toList = latinListing text.toList := by
  intro text
  have latin : ∀ c ∈ text.toList, c.toNat < 0x100 := forall_mem_of_all (by decide +kernel)
  have plain : ∀ c ∈ text.toList, ¬IsShownUnprintable c := forall_mem_of_all (by decide +kernel)
  exact ⟨latin, plain, by decide +kernel, (quote_eq_latinListing_iff latin).mpr plain⟩

/-- The first control behind the printable characters of ASCII and the delete character is not named. -/
theorem quote_ne_latinListing :
    (∀ c ∈ "\u0080".toList, c.toNat < 0x100) ∧ quote "\u0080" = "'\u0080'" ∧
      latinListing "\u0080".toList = "'\\x80'".toList ∧ (quote "\u0080").toList ≠ latinListing "\u0080".toList :=
  ⟨forall_mem_of_all (by decide +kernel), by decide +kernel⟩

end Stencil.Text
