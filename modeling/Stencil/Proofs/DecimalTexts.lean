import Stencil.Proofs.DecimalGrammar
import Stencil.Proofs.ShortestDigits

/-! What the texts of decimals say: read back, each stands for the very number, and no two decimals without zeros at
their end have one text. -/

set_option autoImplicit false

namespace Stencil.Decimal

open Text (isDigit)

/-- The number that a reading stands for, if it is finite. -/
def Reading.value? : Reading → Option ℚ
  | .number negative mantissa exponent => some ((if negative then -1 else 1) * (mantissa * 10 ^ exponent))
  | .infinity _ => none
  | .notANumber _ => none

/-- The number that a text of a decimal stands for, not rounded. -/
def valueOf? (cs : List Char) : Option ℚ := (read? cs).bind Reading.value?

/-- The digits times the power of ten that leaves the point behind the first of them. -/
def Scientific.value (s : Scientific) : ℚ :=
  (if s.negative then -1 else 1) * (ofDigits s.digits * 10 ^ (s.exponent - s.digits.length + 1))

/-- Digits around a point, with at least one on each side. -/
structure PointedAt (cs whole fraction : List Char) : Prop where
  text : cs = whole ++ '.' :: fraction
  digits : ∀ c ∈ whole ++ fraction, isDigit c = true
  before : whole ≠ []
  behind : fraction ≠ []

def IsPositional (cs : List Char) : Prop := ∃ whole fraction, PointedAt cs whole fraction

/-- A point with digits behind it, if there are any. -/
def pointed : List Char → List Char
  | [] => []
  | c :: cs => '.' :: c :: cs

/-- A digit, others behind a point if there are any, and an exponent with a sign and at least two digits. -/
structure IsExponential (lead : Char) (others cs : List Char) : Prop where
  digits : ∀ c ∈ lead :: others, isDigit c = true
  text : ∃ sign magnitude, (sign = '+' ∨ sign = '-') ∧ (∀ c ∈ magnitude, isDigit c = true) ∧ 2 ≤ magnitude.length ∧
    cs = lead :: (pointed others ++ 'e' :: sign :: magnitude)

theorem Sign.signText (negative : Bool) : Sign negative (signText negative) := by
  cases negative
  · exact .none
  · exact .minus

section
variable {whole rest : List Char}

/-- What stands before the first digit of a decimal is its sign. -/
theorem read?_signed (digits : ∀ c ∈ whole, isDigit c = true) (some_ : whole ≠ []) (negative : Bool) :
    read? (signText negative ++ (whole ++ rest)) = readUnsigned? negative (whole ++ rest) := by
  obtain ⟨c, cs, rfl⟩ := List.exists_cons_of_ne_nil some_
  exact read?_unsigned (.signText negative) (Or.inl (digits c List.mem_cons_self))

end

theorem isDigit_of_mem_zeros {count : Nat} {c : Char} (member : c ∈ List.replicate count '0') : isDigit c = true := by
  rw [List.eq_of_mem_replicate member]
  rfl

theorem isDigit_of_mem_twoDigits {n : Nat} {c : Char} (member : c ∈ twoDigits n) : isDigit c = true := by
  unfold twoDigits at member
  split at member
  next =>
    rcases List.mem_cons.mp member with rfl | member
    · rfl
    · exact isDigit_of_mem_toString member
  next => exact isDigit_of_mem_toString member

theorem ofDigits_twoDigits (n : Nat) : ofDigits (twoDigits n) = n := by
  unfold twoDigits
  split
  next => exact ofDigits_toString n
  next => exact ofDigits_toString n

theorem two_le_length_twoDigits (n : Nat) : 2 ≤ (twoDigits n).length := by
  unfold twoDigits
  split
  next => exact Nat.succ_le_succ (List.length_pos_iff.mpr (toString_toList_ne_nil n))
  next large =>
    rw [Nat.toString_eq_repr, Nat.toList_repr]
    by_contra short
    exact large ((Nat.length_toDigits_le_iff (by decide) (by decide)).mp (Nat.le_of_lt_succ (Nat.not_le.mp short)))

/-- A written exponent is read back. -/
theorem readExponent?_twoDigits (e : Int) :
    readExponent? ('e' :: (if e < 0 then '-' else '+') :: twoDigits e.natAbs) = some e := by
  have long := two_le_length_twoDigits e.natAbs
  have some_ : twoDigits e.natAbs ≠ [] := List.ne_nil_of_length_pos (Nat.lt_of_lt_of_le Nat.two_pos long)
  rw [readExponent?, if_pos (Or.inl rfl)]
  split
  next =>
    rw [readInt?_minus some_ fun _ => isDigit_of_mem_twoDigits, ofDigits_twoDigits]
    exact congrArg some (by omega)
  next =>
    rw [readInt?_plus some_ fun _ => isDigit_of_mem_twoDigits, ofDigits_twoDigits]
    exact congrArg some (by omega)

theorem leadingDigit_cons (lead : Char) (others : List Char) :
    leadingDigit (lead :: others) = lead :: pointed others := by
  cases others <;> rfl

theorem IsPositional.not_mem {cs : List Char} (shape : IsPositional cs) : 'e' ∉ cs := by
  obtain ⟨whole, fraction, rfl, digits, -, -⟩ := shape
  intro member
  rcases List.mem_append.mp member with member | member
  · cases digits _ (List.mem_append_left _ member)
  · rcases List.mem_cons.mp member with same | member
    · cases same
    · cases digits _ (List.mem_append_right _ member)

theorem IsExponential.mem {lead : Char} {others cs : List Char} (shape : IsExponential lead others cs) : 'e' ∈ cs := by
  obtain ⟨sign, magnitude, -, -, -, rfl⟩ := shape.text
  exact List.mem_cons_of_mem _ (List.mem_append_right _ List.mem_cons_self)

namespace Scientific

variable {s : Scientific}

/-- With the point in its place the digits may get zeros behind them, each of which counts as one more place. -/
theorem WellFormed.pointedAt (well : s.WellFormed) : ∃ (whole fraction : List Char) (zeros : Nat),
    PointedAt s.fixed whole fraction ∧ ofDigits (whole ++ fraction) = 10 ^ zeros * ofDigits s.digits ∧
    (fraction.length : Int) = s.digits.length - 1 - s.exponent + zeros := by
  unfold Scientific.fixed fixedDigits fractionDigits
  split
  next =>
    split
    next padded =>
      refine ⟨s.digits ++ List.replicate (s.exponent.toNat + 1 - s.digits.length) '0', ['0'],
        s.exponent.toNat + 1 - s.digits.length + 1, ⟨rfl, ?_, ?_, List.cons_ne_nil _ _⟩, ?_, ?_⟩
      · intro c member
        rw [List.append_assoc, ← List.replicate_succ'] at member
        exact (List.mem_append.mp member).elim (well.digits c) isDigit_of_mem_zeros
      · exact List.append_ne_nil_of_left_ne_nil well.some_ _
      · rw [List.append_assoc, ← List.replicate_succ', ofDigits_append, ofDigits_zeros, List.length_replicate,
          Nat.add_zero]
      · rw [List.length_singleton]
        omega
    next split_ =>
      refine ⟨s.digits.take (s.exponent.toNat + 1), s.digits.drop (s.exponent.toNat + 1), 0, ⟨rfl, ?_, ?_, ?_⟩, ?_, ?_⟩
      · rw [List.take_append_drop]
        exact well.digits
      · simpa using well.some_
      · simpa using split_
      · rw [List.take_append_drop, Nat.pow_zero, Nat.one_mul]
      · rw [List.length_drop]
        omega
  next =>
    refine ⟨['0'], List.replicate ((-s.exponent).toNat - 1) '0' ++ s.digits, 0, ⟨rfl, ?_, ?_, ?_⟩, ?_, ?_⟩
    · intro c member
      rw [← List.append_assoc, List.singleton_append, ← List.replicate_succ] at member
      exact (List.mem_append.mp member).elim isDigit_of_mem_zeros (well.digits c)
    · exact List.cons_ne_nil _ _
    · exact List.append_ne_nil_of_right_ne_nil _ well.some_
    · rw [← List.append_assoc, List.singleton_append, ← List.replicate_succ, ofDigits_append, ofDigits_zeros,
        Nat.mul_zero, Nat.zero_add, Nat.pow_zero, Nat.one_mul]
    · rw [List.length_append, List.length_replicate]
      omega

theorem withExponent_cons {lead : Char} {others : List Char} (digits : s.digits = lead :: others) :
    s.withExponent twoDigits = lead ::
      (pointed others ++ 'e' :: (if s.exponent < 0 then '-' else '+') :: twoDigits s.exponent.natAbs) := by
  rw [withExponent, digits, leadingDigit_cons]
  simp

theorem WellFormed.isExponential (well : s.WellFormed) :
    ∃ lead others, s.digits = lead :: others ∧ IsExponential lead others (s.withExponent twoDigits) := by
  obtain ⟨lead, others, digits⟩ := List.exists_cons_of_ne_nil well.some_
  refine ⟨lead, others, digits, digits ▸ well.digits, _, _, ?_, fun _ => isDigit_of_mem_twoDigits,
    two_le_length_twoDigits _, withExponent_cons digits⟩
  split
  next => exact Or.inr rfl
  next => exact Or.inl rfl

theorem WellFormed.read?_fixed (well : s.WellFormed) : ∃ zeros : Nat, read? (signText s.negative ++ s.fixed) =
    some (.number s.negative (10 ^ zeros * ofDigits s.digits) (s.exponent - s.digits.length + 1 - zeros)) := by
  obtain ⟨whole, fraction, zeros, shape, number, places⟩ := well.pointedAt
  have before := (List.forall_mem_append.mp shape.digits).1
  have stop : ∀ c, ([] : List Char).head? = some c → isDigit c = false := by simp
  have read := readUnsigned?_point shape.digits (List.append_ne_nil_of_left_ne_nil shape.before _) stop s.negative
  rw [List.append_nil] at read
  refine ⟨zeros, ?_⟩
  rw [shape.text, read?_signed before shape.before, read, number, places]
  exact congrArg (fun e => some (Reading.number _ _ e)) (by omega)

theorem WellFormed.read?_withExponent (well : s.WellFormed) :
    read? (signText s.negative ++ s.withExponent twoDigits) =
      some (.number s.negative (ofDigits s.digits) (s.exponent - s.digits.length + 1)) := by
  obtain ⟨lead, others, digits⟩ := List.exists_cons_of_ne_nil well.some_
  have all : ∀ c ∈ [lead] ++ others, isDigit c = true := by
    rw [List.singleton_append, ← digits]
    exact well.digits
  have first := (List.forall_mem_append.mp all).1
  have mark (rest : List Char) (c : Char) (head : ('e' :: rest).head? = some c) : isDigit c = false ∧ c ≠ '.' := by
    cases head
    decide
  have exponent := readExponent?_twoDigits s.exponent
  rw [withExponent_cons digits, ← List.singleton_append, read?_signed first (List.cons_ne_nil _ _), digits]
  cases others with
  | nil =>
    rw [pointed, List.nil_append, readUnsigned?_whole first (List.cons_ne_nil _ _) (mark _), exponent]
    simp
  | cons c cs =>
    show readUnsigned? s.negative ([lead] ++ '.' :: (c :: cs ++ 'e' :: _)) = _
    rw [readUnsigned?_point all (List.cons_ne_nil _ _) fun c head => (mark _ c head).1, exponent]
    have places : s.exponent - (c :: cs).length = s.exponent - (lead :: c :: cs).length + 1 := by
      simp only [List.length_cons]
      omega
    rw [Option.map_some, places, List.singleton_append]

/-- The form of a decimal is read as its digits, zeros behind them or not. -/
theorem WellFormed.read?_text (well : s.WellFormed) : ∃ zeros : Nat, read? s.text =
    some (.number s.negative (10 ^ zeros * ofDigits s.digits) (s.exponent - s.digits.length + 1 - zeros)) := by
  unfold text
  split
  next => exact well.read?_fixed
  next => exact ⟨0, by simpa using well.read?_withExponent⟩

theorem WellFormed.valueOf?_text (well : s.WellFormed) : valueOf? s.text = some s.value := by
  obtain ⟨zeros, read⟩ := well.read?_text
  have shift : (10 : ℚ) ^ zeros * 10 ^ (s.exponent - s.digits.length + 1 - zeros) =
      10 ^ (s.exponent - s.digits.length + 1) := by
    rw [← zpow_natCast, ← zpow_add₀ (by decide)]
    exact congrArg _ (by omega)
  rw [valueOf?, read, Option.bind_some, Reading.value?, value, ← shift]
  push_cast
  ring_nf

end Scientific

/-- Two numbers that ten does not divide are told apart whatever powers of ten stand before them. -/
theorem pow_mul_inj {a b m n : Nat} (whole : ¬10 ∣ m) (wholeOther : ¬10 ∣ n) (same : 10 ^ a * m = 10 ^ b * n) :
    a = b ∧ m = n := by
  induction a generalizing b with
  | zero =>
    cases b with
    | zero =>
      rw [pow_zero, one_mul, one_mul] at same
      exact ⟨rfl, same⟩
    | succ b =>
      rw [pow_zero, one_mul, pow_succ', mul_assoc] at same
      exact absurd ⟨_, same⟩ whole
  | succ a ih =>
    cases b with
    | zero =>
      rw [pow_zero, one_mul, pow_succ', mul_assoc] at same
      exact absurd ⟨_, same.symm⟩ wholeOther
    | succ b =>
      rw [pow_succ', pow_succ', mul_assoc, mul_assoc] at same
      obtain ⟨places, rest⟩ := ih (Nat.eq_of_mul_eq_mul_left (by decide) same)
      exact ⟨congrArg (· + 1) places, rest⟩

namespace Scientific

variable {s t : Scientific}

/-- The last digit is what remains of the number by ten. -/
theorem Reduced.not_dvd (reduced : s.Reduced) : ¬10 ∣ ofDigits s.digits := by
  obtain ⟨last, final⟩ : ∃ last, s.digits.getLast? = some last := ⟨_, List.getLast?_eq_some_getLast reduced.some_⟩
  obtain ⟨front, digits⟩ := List.getLast?_eq_some_iff.mp final
  have digit := reduced.digits last (List.mem_of_getLast? final)
  have number := ofDigits_concat front last
  rw [← digits] at number
  have small := (digitValue_lt digit).2
  intro whole
  have zero : last.toNat - '0'.toNat = 0 := by omega
  have char : Nat.digitChar 0 = last := zero ▸ digitChar_digitValue digit
  exact reduced.last (final.trans (congrArg some char.symm))

/-- Decimals without zeros at their end that have one text are one. -/
theorem Reduced.eq_of_text_eq (reduced : s.Reduced) (other : t.Reduced) (same : s.text = t.text) : s = t := by
  obtain ⟨zeros, read⟩ := reduced.read?_text
  obtain ⟨zeros', read'⟩ := other.read?_text
  rw [same, read', Option.some.injEq, Reading.number.injEq] at read
  obtain ⟨sign, shifted, places⟩ := read
  obtain ⟨rfl, number⟩ := pow_mul_inj other.not_dvd reduced.not_dvd shifted
  have digits : t.digits = s.digits := by
    rw [eq_digits other.digits other.lead, eq_digits reduced.digits reduced.lead, number]
  rw [digits] at places
  cases s
  cases t
  simp only [mk.injEq] at *
  refine ⟨sign.symm, digits.symm, ?_⟩
  omega

end Scientific

/-- A double that is neither zero, infinite nor not a number. -/
structure IsOrdinary (x : Float) : Prop where
  number : x.isNaN = false
  finite : x.isInf = false
  nonzero : (x == 0.0) = false

theorem IsOrdinary.floatText_eq {x : Float} (ordinary : IsOrdinary x) :
    floatText x = String.ofList (ofFloat .up x).text := by
  rw [floatText, floatChars, floatWith, if_neg (ne_true_of_eq_false ordinary.number),
    if_neg (ne_true_of_eq_false ordinary.finite), if_neg (ne_true_of_eq_false ordinary.nonzero)]

/-- The text of a decimal stands for the very number. It has the point in its place from `0.0001` up to below
`10 ^ 16` and an exponent otherwise. Decimals without zeros at their end that differ have texts that differ, and those
of doubles are such. -/
theorem text_faithful :
    (∀ s : Scientific, s.WellFormed → valueOf? s.text = some s.value ∧
      ∃ body, s.text = signText s.negative ++ body ∧ (IsPositional body ↔ -4 ≤ s.exponent ∧ s.exponent < 16) ∧
        (¬(-4 ≤ s.exponent ∧ s.exponent < 16) →
          ∃ lead others, s.digits = lead :: others ∧ IsExponential lead others body)) ∧
    (∀ s t : Scientific, s.Reduced → t.Reduced → s ≠ t → s.text ≠ t.text) ∧
    (∀ x, IsOrdinary x → (ofFloat .up x).Reduced ∧ floatText x = String.ofList (ofFloat .up x).text) ∧
    ∀ x y, IsOrdinary x → IsOrdinary y → ofFloat .up x ≠ ofFloat .up y → floatText x ≠ floatText y := by
  refine ⟨?_, ?_, ?_, ?_⟩
  · intro s well
    refine ⟨well.valueOf?_text, _, rfl, ?_⟩
    obtain ⟨lead, others, digits, shape⟩ := well.isExponential
    split
    next inside =>
      obtain ⟨whole, fraction, -, positional, -⟩ := well.pointedAt
      exact ⟨iff_of_true ⟨whole, fraction, positional⟩ inside, fun outside => absurd inside outside⟩
    next outside =>
      exact ⟨iff_of_false (fun positional => positional.not_mem shape.mem) outside,
        fun _ => ⟨lead, others, digits, shape⟩⟩
  · exact fun s t reduced other differ same => differ (reduced.eq_of_text_eq other same)
  · exact fun x ordinary => ⟨ofFloat_reduced .up x, ordinary.floatText_eq⟩
  · intro x y ordinary other differ same
    rw [ordinary.floatText_eq, other.floatText_eq] at same
    exact differ ((ofFloat_reduced .up x).eq_of_text_eq (ofFloat_reduced .up y) (String.ofList_injective same))

/-- A negative number with an exponent, and two doubles of which one has an exponent. -/
theorem text_faithful_small :
    valueOf? ['-', '1', '.', '5', 'e', '-', '0', '5'] = some (-1 * (15 * 10 ^ (-6 : Int))) ∧
      floatText 1.5e-5 ≠ floatText 0.25 := by
  have well : (⟨true, ['1', '5'], -5⟩ : Scientific).WellFormed :=
    ⟨List.all_eq_true.mp (by decide), by decide, by decide⟩
  have small : IsOrdinary 1.5e-5 := ⟨by decide +kernel, by decide +kernel, by decide +kernel⟩
  have quarter : IsOrdinary 0.25 := ⟨by decide +kernel, by decide +kernel, by decide +kernel⟩
  exact ⟨(text_faithful.1 _ well).1, text_faithful.2.2.2 _ _ small quarter (by decide +kernel)⟩

end Stencil.Decimal
