import Mathlib.Data.Nat.Digits.Defs
import Mathlib.Tactic.Ring
import Stencil.Decimal.Reader

/-! Whole numbers as they are written: of digits, with a minus sign before those of a negative number, and read back as
the number. Digits of which the first is not zero are the only such digits of their number. -/

set_option autoImplicit false

namespace Stencil.Decimal

theorem digitsFrom_eq_ofDigitChars (value : Nat) (cs : List Char) :
    digitsFrom value cs = Nat.ofDigitChars 10 cs value := by
  induction cs generalizing value with
  | nil => rfl
  | cons c cs ih =>
    have step : digitsFrom value (c :: cs) = digitsFrom (value * 10 + (c.toNat - 48)) cs := rfl
    rw [step, ih, Nat.mul_comm]
    rfl

/-- Each digit counts for a power of ten by its place from the right. -/
theorem digitsFrom_eq (value : Nat) (cs : List Char) : digitsFrom value cs =
    Nat.ofDigits 10 (cs.reverse.map fun c => c.toNat - '0'.toNat) + 10 ^ cs.length * value := by
  induction cs generalizing value with
  | nil =>
    show value = _
    simp
  | cons c cs ih =>
    have step : digitsFrom value (c :: cs) = digitsFrom (value * 10 + (c.toNat - '0'.toNat)) cs := rfl
    rw [step, ih, List.reverse_cons, List.map_append, Nat.ofDigits_append, List.length_map, List.length_reverse,
      List.map_singleton, Nat.ofDigits_singleton, List.length_cons, pow_succ]
    ring

theorem ofDigits_eq (cs : List Char) :
    ofDigits cs = Nat.ofDigits 10 (cs.reverse.map fun c => c.toNat - '0'.toNat) := by
  rw [ofDigits, digitsFrom_eq, Nat.mul_zero, Nat.add_zero]

theorem ofDigits_append (front back : List Char) :
    ofDigits (front ++ back) = 10 ^ back.length * ofDigits front + ofDigits back := by
  rw [ofDigits, ofDigits, ofDigits, digitsFrom_eq_ofDigitChars, digitsFrom_eq_ofDigitChars, digitsFrom_eq_ofDigitChars,
    Nat.ofDigitChars_append, Nat.ofDigitChars_eq_ofDigitChars_zero]

theorem ofDigits_concat (front : List Char) (last : Char) :
    ofDigits (front ++ [last]) = 10 * ofDigits front + (last.toNat - '0'.toNat) := by
  rw [ofDigits_append, List.length_singleton, Nat.pow_one, ofDigits_eq [last], List.reverse_singleton,
    List.map_singleton, Nat.ofDigits_singleton]

theorem ofDigits_zeros (count : Nat) : ofDigits (List.replicate count '0') = 0 := by
  rw [ofDigits, digitsFrom_eq_ofDigitChars, Nat.ofDigitChars_replicate_zero, Nat.mul_zero]

theorem ofDigits_toString (number : Nat) : ofDigits (toString number).toList = number := by
  rw [ofDigits, digitsFrom_eq_ofDigitChars, Nat.toString_eq_repr, Nat.toList_repr]
  exact Nat.ofDigitChars_toDigits (by decide) (by decide)

theorem isDigit_of_mem_toString {number : Nat} {c : Char} (member : c ∈ (toString number).toList) :
    Text.isDigit c = true := by
  rw [Nat.toString_eq_repr, Nat.toList_repr] at member
  exact Nat.isDigit_of_mem_toDigits (by decide) (by decide) member

theorem toString_toList_ne_nil (number : Nat) : (toString number).toList ≠ [] := by
  rw [Nat.toString_eq_repr, Nat.toList_repr]
  exact Nat.toDigits_ne_nil

/-- Only zero is written with a zero in front. -/
theorem head?_toString {number : Nat} (pos : 0 < number) : (toString number).toList.head? ≠ some '0' := by
  rw [Nat.toString_eq_repr, Nat.toList_repr]
  induction number using Nat.strongRecOn with
  | ind number ih =>
    rcases Nat.lt_or_ge number 10 with small | large
    · have single : ∀ n < 10, 0 < n → [n.digitChar].head? ≠ some '0' := by decide
      rw [Nat.toDigits_of_lt_base small]
      exact single number small pos
    · have front : 0 < number / 10 := Nat.div_pos large (by decide)
      have parts := Nat.toDigits_append_toDigits (b := 10) (by decide) front (Nat.mod_lt number (by decide))
      have lead := ih _ (Nat.div_lt_self pos (by decide)) front
      obtain ⟨c, cs, digits⟩ := List.exists_cons_of_ne_nil (Nat.toDigits_ne_nil (b := 10) (n := number / 10))
      rw [Nat.div_add_mod, digits] at parts
      rw [digits] at lead
      rw [← parts]
      exact lead

theorem digitValue_lt {c : Char} (digit : Text.isDigit c = true) : '0'.toNat ≤ c.toNat ∧ c.toNat - '0'.toNat < 10 := by
  simp only [Text.isDigit, Bool.and_eq_true, decide_eq_true_eq] at digit
  have low : '0'.toNat ≤ c.toNat := digit.1
  have high : c.toNat ≤ '0'.toNat + 9 := digit.2
  omega

/-- What holds of each digit by its value holds of a digit. -/
theorem of_isDigit {P : Char → Prop} (each : ∀ value < 10, P (Char.ofNat ('0'.toNat + value))) {c : Char}
    (digit : Text.isDigit c = true) : P c := by
  obtain ⟨low, small⟩ := digitValue_lt digit
  have here := each _ small
  rwa [Nat.add_sub_cancel' low, Char.ofNat_toNat] at here

theorem digitChar_digitValue {c : Char} : Text.isDigit c = true → Nat.digitChar (c.toNat - '0'.toNat) = c :=
  of_isDigit (P := fun c => Nat.digitChar (c.toNat - '0'.toNat) = c) (by decide)

/-- The digits of a number in base ten, the last first. -/
theorem digits_ofDigits {cs : List Char} (digits : ∀ c ∈ cs, Text.isDigit c = true) (lead : cs.head? ≠ some '0') :
    Nat.digits 10 (ofDigits cs) = cs.reverse.map fun c => c.toNat - '0'.toNat := by
  rw [ofDigits_eq]
  refine Nat.digits_ofDigits 10 (by decide) _ ?_ ?_
  · intro value among
    obtain ⟨c, member, rfl⟩ := List.mem_map.mp among
    exact (digitValue_lt (digits c (List.mem_reverse.mp member))).2
  · intro some_ zero
    cases cs with
    | nil => exact some_ rfl
    | cons c cs =>
      have first : c.toNat - '0'.toNat = 0 := by simpa using zero
      have char : Nat.digitChar 0 = c := first ▸ digitChar_digitValue (digits c List.mem_cons_self)
      exact lead (congrArg some char.symm)

/-- Digits of which the first is not zero are those of their number. -/
theorem eq_digits {cs : List Char} (digits : ∀ c ∈ cs, Text.isDigit c = true) (lead : cs.head? ≠ some '0') :
    cs = (Nat.digits 10 (ofDigits cs)).reverse.map Nat.digitChar := by
  rw [digits_ofDigits digits lead, ← List.map_reverse, List.reverse_reverse, List.map_map]
  calc
    cs = cs.map id := (List.map_id cs).symm
    _ = _ := List.map_congr_left fun c member => (digitChar_digitValue (digits c member)).symm

section
variable {cs : List Char}

theorem splitSign_of_isDigit (digits : ∀ c ∈ cs, Text.isDigit c = true) : splitSign cs = (false, cs) := by
  unfold splitSign
  split
  next => exact absurd (digits '-' List.mem_cons_self) (by decide)
  next => exact absurd (digits '+' List.mem_cons_self) (by decide)
  next => rfl

/-- Digits have no sign before them, so all of them are read. -/
theorem readInt?_of_isDigit (some_ : cs ≠ []) (digits : ∀ c ∈ cs, Text.isDigit c = true) :
    readInt? cs = some (ofDigits cs : Int) := by
  rw [readInt?, splitSign_of_isDigit digits]
  simp [some_, List.all_eq_true.mpr digits]

theorem readInt?_plus (some_ : cs ≠ []) (digits : ∀ c ∈ cs, Text.isDigit c = true) :
    readInt? ('+' :: cs) = some (ofDigits cs : Int) := by
  simp [readInt?, splitSign, some_, List.all_eq_true.mpr digits]

theorem readInt?_minus (some_ : cs ≠ []) (digits : ∀ c ∈ cs, Text.isDigit c = true) :
    readInt? ('-' :: cs) = some (-(ofDigits cs : Int)) := by
  simp [readInt?, splitSign, some_, List.all_eq_true.mpr digits]

end

/-- A written number is read back. -/
theorem readNat?_toString (number : Nat) : readNat? (toString number).toList = some number := by
  have read := readInt?_of_isDigit (toString_toList_ne_nil number) fun _ => isDigit_of_mem_toString
  unfold readNat?
  split
  next minus => exact absurd (isDigit_of_mem_toString (minus ▸ List.mem_cons_self)) (by decide)
  next => rw [read, ofDigits_toString]; rfl

theorem toString_toList_int (n : Int) : (toString n).toList =
    if 0 ≤ n then (toString n.toNat).toList else '-' :: (toString (-n).toNat).toList := by
  rw [Int.toString_eq_repr, Int.repr_eq_if]
  split
  next => rfl
  next => exact String.toList_append

theorem toString_toList_int_ne_nil (n : Int) : (toString n).toList ≠ [] := by
  rw [toString_toList_int]
  split
  next => exact toString_toList_ne_nil _
  next => exact List.cons_ne_nil _ _

theorem readInt?_toString (n : Int) : readInt? (toString n).toList = some n := by
  rw [toString_toList_int]
  split
  next =>
    rw [readInt?_of_isDigit (toString_toList_ne_nil _) fun _ => isDigit_of_mem_toString, ofDigits_toString]
    exact congrArg some (by omega)
  next =>
    rw [readInt?_minus (toString_toList_ne_nil _) fun _ => isDigit_of_mem_toString, ofDigits_toString]
    exact congrArg some (by omega)

end Stencil.Decimal
