import Mathlib.Data.List.TakeWhile
import Stencil.Proofs.Numerals

/-! The texts of numbers, told without the readers that take them apart. A reader accepts these texts and no others. -/

set_option autoImplicit false

namespace Stencil.Decimal

open Text (isDigit)

/-- The signs, none among them, and whether a number with the sign is negative. -/
inductive Sign : Bool → List Char → Prop
  | none : Sign false []
  | plus : Sign false ['+']
  | minus : Sign true ['-']

def IsDigits (text : List Char) : Prop := text ≠ [] ∧ ∀ c ∈ text, isDigit c = true

/-- The number that digits denote: each counts for a power of ten by its place from the right. -/
def placeValue (digits : List Char) : Nat := Nat.ofDigits 10 (digits.reverse.map fun c => c.toNat - '0'.toNat)

/-- The texts of whole numbers: digits, any number of zeros before them, behind an optional sign. -/
inductive Whole : List Char → Int → Prop
  | signed {negative : Bool} {sign digits : List Char} : Sign negative sign → IsDigits digits →
      Whole (sign ++ digits) (if negative then -(placeValue digits : Int) else placeValue digits)

/-- Digits before a point and behind it. Either may be missing, but not both. -/
inductive Mantissa : List Char → List Char → List Char → Prop
  | whole {digits : List Char} : IsDigits digits → Mantissa digits digits []
  | pointed {whole fraction : List Char} : IsDigits (whole ++ fraction) →
      Mantissa (whole ++ '.' :: fraction) whole fraction

inductive Exponent : List Char → Int → Prop
  | none : Exponent [] 0
  | marked {mark : Char} {text : List Char} {e : Int} : mark = 'e' ∨ mark = 'E' → Whole text e →
      Exponent (mark :: text) e

/-- The texts of decimals, and of what is not finite in letters of any case. -/
inductive Written : List Char → Reading → Prop
  | number {negative : Bool} {sign mantissa whole fraction exponent : List Char} {e : Int} : Sign negative sign →
      Mantissa mantissa whole fraction → Exponent exponent e →
      Written (sign ++ (mantissa ++ exponent)) (.number negative (placeValue (whole ++ fraction)) (e - fraction.length))
  | infinity {negative : Bool} {sign word : List Char} : Sign negative sign →
      word.map Char.toLower = ['i', 'n', 'f'] ∨ word.map Char.toLower = ['i', 'n', 'f', 'i', 'n', 'i', 't', 'y'] →
      Written (sign ++ word) (.infinity negative)
  | notANumber {negative : Bool} {sign word : List Char} : Sign negative sign →
      word.map Char.toLower = ['n', 'a', 'n'] → Written (sign ++ word) (.notANumber negative)

theorem toLower_of_isDigit {c : Char} : isDigit c = true → c.toLower = c :=
  of_isDigit (P := fun c => c.toLower = c) (by decide)

theorem ofDigits_eq_placeValue (digits : List Char) : ofDigits digits = placeValue digits := ofDigits_eq digits

section
variable {negative : Bool} {sign digits text : List Char}

theorem splitSign_sound (cs : List Char) : ∃ sign, Sign (splitSign cs).1 sign ∧ cs = sign ++ (splitSign cs).2 := by
  unfold splitSign
  split
  next => exact ⟨['-'], .minus, rfl⟩
  next => exact ⟨['+'], .plus, rfl⟩
  next => exact ⟨[], .none, rfl⟩

/-- A sign is split off what does not start with one itself. -/
theorem Sign.split (signed : Sign negative sign) (bare : ∀ c, text.head? = some c → c ≠ '-' ∧ c ≠ '+') :
    splitSign (sign ++ text) = (negative, text) := by
  cases signed with
  | none =>
    rw [List.nil_append]
    unfold splitSign
    split
    next => exact absurd rfl (bare '-' rfl).1
    next => exact absurd rfl (bare '+' rfl).2
    next => rfl
  | plus => rfl
  | minus => rfl

theorem ne_sign_of_isDigit {c : Char} (digit : isDigit c = true) : c ≠ '-' ∧ c ≠ '+' := by
  constructor <;> rintro rfl <;> cases digit

theorem IsDigits.head_ne_sign (digits_ : IsDigits digits) (c : Char) (head : digits.head? = some c) :
    c ≠ '-' ∧ c ≠ '+' :=
  ne_sign_of_isDigit (digits_.2 c (List.mem_of_mem_head? head))

theorem readInt?_eq_some_iff {n : Int} : readInt? text = some n ↔ Whole text n := by
  constructor
  · intro read
    obtain ⟨sign, signed, split⟩ := splitSign_sound text
    rw [readInt?] at read
    generalize splitSign text = parts at *
    obtain ⟨negative, digits⟩ := parts
    subst split
    dsimp only at read signed
    split at read
    next => cases read
    next formed =>
      simp only [Bool.or_eq_true, List.isEmpty_iff, Bool.not_eq_true', not_or, Bool.not_eq_false,
        List.all_eq_true] at formed
      rw [ofDigits_eq_placeValue] at read
      exact Option.some.inj read ▸ .signed signed formed
  · rintro ⟨signed, digits⟩
    have all := List.all_eq_true.mpr digits.2
    rw [readInt?, signed.split digits.head_ne_sign]
    simp [digits.1, all, ofDigits_eq_placeValue]

theorem readExponent?_eq_some_iff {e : Int} : readExponent? text = some e ↔ Exponent text e := by
  constructor
  · intro read
    unfold readExponent? at read
    split at read
    next =>
      cases read
      exact .none
    next =>
      split at read
      next mark => exact .marked mark (readInt?_eq_some_iff.mp read)
      next => cases read
  · intro exponent
    cases exponent with
    | none => rfl
    | marked mark whole =>
      rw [readExponent?, if_pos mark]
      exact readInt?_eq_some_iff.mpr whole

theorem Exponent.stops {e : Int} (exponent : Exponent text e) (c : Char) (head : text.head? = some c) :
    isDigit c = false ∧ c ≠ '.' := by
  cases exponent with
  | none => cases head
  | marked mark =>
    cases head
    rcases mark with rfl | rfl <;> decide

end

section
variable {whole fraction rest : List Char}

/-- Digits with a point among or around them are read up to what is no digit. -/
theorem readUnsigned?_point (digits : ∀ c ∈ whole ++ fraction, isDigit c = true) (some_ : whole ++ fraction ≠ [])
    (stop : ∀ c, rest.head? = some c → isDigit c = false) (negative : Bool) :
    readUnsigned? negative (whole ++ '.' :: (fraction ++ rest)) = (readExponent? rest).map fun e =>
      .number negative (ofDigits (whole ++ fraction)) (e - fraction.length) := by
  obtain ⟨before, behind⟩ := List.forall_mem_append.mp digits
  have point (c : Char) (head : ('.' :: (fraction ++ rest)).head? = some c) : isDigit c = false := by
    cases head
    rfl
  obtain ⟨run, left⟩ := Text.run_stop before point
  obtain ⟨other, ended⟩ := Text.run_stop behind stop
  have filled : ¬(whole.isEmpty && fraction.isEmpty) = true := by simpa using some_
  simp only [readUnsigned?, run, left, other, ended, if_neg filled]

theorem readUnsigned?_whole (digits : ∀ c ∈ whole, isDigit c = true) (some_ : whole ≠ [])
    (stop : ∀ c, rest.head? = some c → isDigit c = false ∧ c ≠ '.') (negative : Bool) :
    readUnsigned? negative (whole ++ rest) = (readExponent? rest).map fun e => .number negative (ofDigits whole) e := by
  obtain ⟨run, left⟩ := Text.run_stop digits fun c head => (stop c head).1
  simp only [readUnsigned?, run, left]
  split
  next => exact absurd rfl (stop '.' rfl).2
  next => simp [some_]

end

section
variable {negative : Bool} {sign text mantissa whole fraction : List Char} {reading : Reading}

theorem readUnsigned?_eq_some_iff : readUnsigned? negative text = some reading ↔
    ∃ mantissa exponent whole fraction e, Mantissa mantissa whole fraction ∧ Exponent exponent e ∧
      text = mantissa ++ exponent ∧
      reading = .number negative (placeValue (whole ++ fraction)) (e - fraction.length) := by
  constructor
  · intro read
    have digits : ∀ c ∈ text.takeWhile isDigit, isDigit c = true := fun c => List.mem_takeWhile_imp
    have split := (List.takeWhile_append_dropWhile (p := isDigit) (l := text)).symm
    unfold readUnsigned? at read
    generalize text.takeWhile isDigit = whole at *
    generalize text.dropWhile isDigit = rest at *
    dsimp only at read
    split at read
    next tail =>
      have behind : ∀ c ∈ tail.takeWhile isDigit, isDigit c = true := fun c => List.mem_takeWhile_imp
      have parts := (List.takeWhile_append_dropWhile (p := isDigit) (l := tail)).symm
      generalize tail.takeWhile isDigit = fraction at *
      generalize tail.dropWhile isDigit = exponent at *
      split at read
      next => cases read
      next filled =>
        obtain ⟨e, found, rfl⟩ := Option.map_eq_some_iff.mp read
        have filled : whole ++ fraction ≠ [] := by simpa using filled
        rw [ofDigits_eq_placeValue]
        refine ⟨whole ++ '.' :: fraction, exponent, whole, fraction, e,
          .pointed ⟨filled, List.forall_mem_append.mpr ⟨digits, behind⟩⟩, readExponent?_eq_some_iff.mp found, ?_, rfl⟩
        rw [split, parts, List.append_assoc, List.cons_append]
    next =>
      split at read
      next => cases read
      next filled =>
        obtain ⟨e, found, rfl⟩ := Option.map_eq_some_iff.mp read
        have filled : whole ≠ [] := by simpa using filled
        rw [ofDigits_eq_placeValue]
        exact ⟨whole, rest, whole, [], e, .whole ⟨filled, digits⟩, readExponent?_eq_some_iff.mp found, split, rfl⟩
  · rintro ⟨mantissa, exponent, whole, fraction, e, formed, marked, rfl, rfl⟩
    have read := readExponent?_eq_some_iff.mpr marked
    cases formed with
    | whole digits =>
      rw [readUnsigned?_whole digits.2 digits.1 marked.stops, read, ofDigits_eq_placeValue]
      simp
    | pointed digits =>
      rw [List.append_assoc, List.cons_append,
        readUnsigned?_point digits.2 digits.1 (fun c head => (marked.stops c head).1), read, ofDigits_eq_placeValue]
      rfl

/-- A mantissa starts with a digit or its point. -/
theorem Mantissa.lead (formed : Mantissa mantissa whole fraction) :
    ∃ c tail, mantissa = c :: tail ∧ (isDigit c = true ∨ c = '.') := by
  cases formed with
  | whole digits =>
    obtain ⟨c, tail, rfl⟩ := List.exists_cons_of_ne_nil digits.1
    exact ⟨c, tail, rfl, Or.inl (digits.2 c List.mem_cons_self)⟩
  | pointed digits =>
    cases whole with
    | nil => exact ⟨'.', fraction, rfl, Or.inr rfl⟩
    | cons c tail => exact ⟨c, tail ++ '.' :: fraction, rfl, Or.inl (digits.2 c List.mem_cons_self)⟩

/-- A digit or a point in front tells a decimal from the words for what is not finite. -/
theorem read?_unsigned {c : Char} {cs : List Char} (signed : Sign negative sign) (lead : isDigit c = true ∨ c = '.') :
    read? (sign ++ c :: cs) = readUnsigned? negative (c :: cs) := by
  have bare (d : Char) (head : (c :: cs).head? = some d) : d ≠ '-' ∧ d ≠ '+' := by
    cases head
    rcases lead with digit | rfl
    · exact ne_sign_of_isDigit digit
    · decide
  -- Digits and points have no other case, so in lower case the text still starts with one.
  have other {letter : Char} (word : List Char) (letter_ : isDigit letter = false ∧ letter ≠ '.') :
      (c :: cs).map Char.toLower ≠ letter :: word := by
    intro same
    have head : c.toLower = letter := (List.cons.inj same).1
    rcases lead with digit | rfl
    · rw [toLower_of_isDigit digit] at head
      rw [← head, digit] at letter_
      cases letter_.1
    · exact letter_.2 head.symm
  rw [read?, signed.split bare]
  show (if _ then _ else if _ then _ else _) = _
  rw [if_neg (not_or.mpr ⟨other _ (by decide), other _ (by decide)⟩), if_neg (other _ (by decide))]

/-- The words for what is not finite do not start with a sign. -/
theorem ne_sign_of_word {letter : Char} {word rest : List Char} (lower : word.map Char.toLower = letter :: rest)
    (other : letter ≠ '-' ∧ letter ≠ '+') (c : Char) (head : word.head? = some c) : c ≠ '-' ∧ c ≠ '+' := by
  have first : (word.map Char.toLower).head? = some c.toLower := by rw [List.head?_map, head, Option.map_some]
  rw [lower] at first
  cases first
  constructor <;> rintro rfl
  · exact other.1 rfl
  · exact other.2 rfl

/-- A text is read as a decimal exactly if it is written as one. -/
theorem read?_eq_some_iff : read? text = some reading ↔ Written text reading := by
  constructor
  · intro read
    obtain ⟨sign, signed, split⟩ := splitSign_sound text
    rw [read?] at read
    generalize splitSign text = parts at *
    obtain ⟨negative, rest⟩ := parts
    subst split
    dsimp only at read signed
    split at read
    next word =>
      cases read
      exact .infinity signed word
    next =>
      split at read
      next word =>
        cases read
        exact .notANumber signed word
      next =>
        obtain ⟨mantissa, exponent, whole, fraction, e, formed, marked, rfl, rfl⟩ := readUnsigned?_eq_some_iff.mp read
        exact .number signed formed marked
  · intro written
    cases written with
    | @number negative _ mantissa whole fraction exponent e signed formed marked =>
      have unsigned : readUnsigned? negative (mantissa ++ exponent) = some (.number negative _ _) :=
        readUnsigned?_eq_some_iff.mpr ⟨mantissa, exponent, whole, fraction, e, formed, marked, rfl, rfl⟩
      obtain ⟨c, tail, rfl, lead⟩ := formed.lead
      rw [List.cons_append, read?_unsigned signed lead]
      exact unsigned
    | infinity signed word =>
      have bare := word.elim (ne_sign_of_word · (by decide)) (ne_sign_of_word · (by decide))
      rw [read?, signed.split bare]
      exact if_pos word
    | notANumber signed word =>
      rw [read?, signed.split (ne_sign_of_word word (by decide))]
      show (if _ then _ else if _ then _ else _) = _
      rw [word]
      rfl

/-- Every whole number is a decimal as well. -/
theorem Whole.written {n : Int} (whole : Whole text n) : ∃ reading, Written text reading := by
  obtain ⟨signed, digits⟩ := whole
  rw [← List.append_nil (_ ++ _), List.append_assoc]
  exact ⟨_, .number signed (.whole digits) .none⟩

end

end Stencil.Decimal
