import Stencil.Proofs.NearestDouble

/-! Equality of whole numbers with doubles: which whole numbers are equal to one double, and so where equality carries
over from a number to another through a double. -/

set_option autoImplicit false

namespace Stencil

namespace Double

section
variable {n p : Nat}

theorem nearest_pos (pos : 0 < n) : 0 < nearest n := by
  rcases Nat.lt_or_ge n (2 ^ 53) with short | long
  · rwa [nearest_of_lt short]
  · exact Nat.lt_of_lt_of_le (by decide) (le_nearest (by decide) long)

/-- A number with 53 digits is nearest to itself, whatever zeros stand behind them. -/
theorem nearest_scaled {m : Nat} (short : m < 2 ^ 53) (places : Nat) : nearest (m * 2 ^ places) = m * 2 ^ places := by
  rcases Nat.eq_zero_or_pos m with rfl | pos
  · rw [Nat.zero_mul]
    exact nearest_of_lt (by decide)
  · have size : m.log2 < 53 := (Nat.log2_lt pos.ne').mpr short
    have unit : spacing (m * 2 ^ places) ∣ m * 2 ^ places := by
      rw [spacing, log2_scale pos]
      exact Dvd.dvd.mul_left (pow_dvd_pow 2 (by omega)) m
    obtain ⟨count, whole⟩ := unit
    have exact_ := roundEven_mul count (spacing_pos (m * 2 ^ places))
    rw [Nat.mul_comm count, ← whole] at exact_
    rw [nearest, exact_, Nat.mul_comm count, ← whole]

theorem nearest_nearest (n : Nat) : nearest (nearest n) = nearest n := by
  rcases Nat.lt_or_ge n (2 ^ 53) with short | long
  · rw [nearest_of_lt short, nearest_of_lt short]
  · have long : 53 ≤ n.log2 := log2_of_le long
    have most : roundEven n (spacing n) ≤ 2 ^ 53 := (roundEven_spacing_bounds (by omega)).2
    rcases Nat.lt_or_eq_of_le most with fits | carry
    · exact nearest_scaled fits _
    · have value : nearest n = 2 ^ 52 * 2 ^ (n.log2 - 52 + 1) := by
        rw [nearest, carry, spacing]
        ring
      rw [value]
      exact nearest_scaled (by decide) _

/-- The numbers with at most 53 binary digits, and those with 54 that end in a one and a zero. -/
def IsAlone (n : Nat) : Prop := n < 2 ^ 53 ∨ n < 2 ^ 54 ∧ n % 4 = 2

theorem spacing_eq {count : Nat} (low : 2 ^ (52 + count) ≤ n) (high : n < 2 ^ (53 + count)) :
    spacing n = 2 ^ count := by
  have some_ : n ≠ 0 := (Nat.lt_of_lt_of_le (Nat.two_pow_pos _) low).ne'
  have size : n.log2 = 52 + count := (Nat.log2_eq_iff some_).mpr ⟨low, by rwa [Nat.add_right_comm]⟩
  rw [spacing, size, Nat.add_sub_cancel_left]

theorem nearest_of_middle (low : 2 ^ 53 ≤ n) (high : n < 2 ^ 54) : nearest n = roundEven n 2 * 2 := by
  have unit : spacing n = 2 ^ 1 := spacing_eq low high
  rw [nearest, unit, Nat.pow_one]

theorem IsAlone.eq_of_nearest_eq (alone : IsAlone n) (same : nearest p = nearest n) : p = n := by
  have self : nearest n = n := by
    rcases Nat.lt_or_ge n (2 ^ 53) with short | long
    · exact nearest_of_lt short
    · rcases alone with short | ⟨high, digits⟩
      · omega
      · rw [nearest_of_middle long high]
        unfold roundEven
        split <;> omega
  rw [self] at same
  rcases Nat.lt_or_ge p (2 ^ 53) with short | long
  · rwa [nearest_of_lt short] at same
  · have low : 2 ^ 53 ≤ nearest p := le_nearest (by decide) long
    obtain ⟨high, digits⟩ := alone.resolve_left (by omega)
    rcases Nat.lt_or_ge p (2 ^ 54) with middle | large
    · rw [nearest_of_middle long middle] at same
      unfold roundEven at same
      split at same <;> omega
    · have high' : 2 ^ 54 ≤ nearest p := le_nearest (by decide) large
      omega

theorem two_dvd_nearest (long : 2 ^ 53 ≤ n) : 2 ∣ nearest n := by
  have size : 53 ≤ n.log2 := log2_of_le long
  exact Dvd.dvd.mul_left (dvd_pow_self 2 (by omega)) _

theorem roundEven_succ {count unit : Nat} (some_ : 1 < unit) (down : 2 < unit ∨ count % 2 = 0) :
    roundEven (count * unit + 1) unit = count := by
  have rest : (count * unit + 1) % unit = 1 := by rw [Nat.mul_add_mod', Nat.mod_eq_of_lt some_]
  have quotient : (count * unit + 1) / unit = count := by
    rw [Nat.mul_comm, Nat.mul_add_div (by omega), Nat.div_eq_of_lt some_, Nat.add_zero]
  rw [roundEven, rest, quotient, if_pos]
  omega

/-- The number behind one that is rounded to itself is rounded to it too, unless that one is alone. -/
theorem nearest_succ (long : 2 ^ 53 ≤ n) (self : nearest n = n) (other : ¬IsAlone n) : nearest (n + 1) = n := by
  obtain ⟨half, even⟩ := two_dvd_nearest long
  rw [self] at even
  obtain ⟨digits, size⟩ := Nat.exists_eq_add_of_le (log2_of_le long)
  obtain ⟨least, most⟩ := (Nat.log2_eq_iff (by omega)).mp size
  have unit : spacing n = 2 ^ (digits + 1) := by
    rw [spacing, size]
    exact congrArg _ (by omega)
  have unit_ : spacing (n + 1) = 2 ^ (digits + 1) := by
    have double : 2 ^ (53 + digits + 1) = 2 * 2 ^ (53 + digits) := by ring
    have below : n + 1 < 2 ^ (53 + digits + 1) := by omega
    refine spacing_eq ?_ ?_
    · rw [← Nat.add_assoc, Nat.add_right_comm]
      exact least.trans (Nat.le_succ n)
    · rwa [← Nat.add_assoc]
  have parts : n = roundEven n (spacing n) * 2 ^ (digits + 1) := by
    rw [← unit]
    exact self.symm
  generalize roundEven n (spacing n) = count at parts
  have down : 2 < 2 ^ (digits + 1) ∨ count % 2 = 0 := by
    cases digits with
    | zero =>
      -- The unit is two, and two units make a multiple of four.
      rw [IsAlone] at other
      omega
    | succ digits =>
      have more : 2 ^ (digits + 1 + 1) = 4 * 2 ^ digits := by ring
      have pos := Nat.two_pow_pos digits
      omega
  have some_ : 1 < 2 ^ (digits + 1) := Nat.one_lt_two_pow (Nat.succ_ne_zero digits)
  rw [nearest, unit_]
  conv_lhs => rw [parts]
  rw [roundEven_succ some_ down, ← parts]

theorem exists_same_nearest (long : 2 ^ 53 ≤ n) (small : n ≤ 2 ^ 63) (other : ¬IsAlone n) :
    ∃ p, p ≠ n ∧ p < 2 ^ 63 ∧ nearest p = nearest n := by
  rcases Nat.lt_or_eq_of_le small with below | rfl
  · by_cases self : nearest n = n
    · obtain ⟨half, even⟩ := two_dvd_nearest long
      exact ⟨n + 1, by omega, by omega, (nearest_succ long self other).trans self.symm⟩
    · rcases Nat.lt_or_eq_of_le (nearest_le_pow below) with inside | top
      · exact ⟨nearest n, self, inside, nearest_nearest n⟩
      · -- The greatest numbers are all rounded to the same, which is not among them.
        by_cases last : n = 2 ^ 63 - 1
        · exact ⟨2 ^ 63 - 2, by omega, by decide, by rw [top]; decide⟩
        · exact ⟨2 ^ 63 - 1, Ne.symm last, by decide, by rw [top]; decide⟩
  · exact ⟨2 ^ 63 - 1, by decide, by decide, by decide⟩

end

/-- A count with the sign of a number that is not zero. -/
theorem sign_mul_sign {n : Int} {count : Nat} (pos : n ≠ 0 → 0 < count) : (n.sign * count).sign = n.sign := by
  rcases eq_or_ne n 0 with rfl | some_
  · rw [Int.sign_zero, Int.zero_mul, Int.sign_zero]
  · rw [Int.sign_mul, Int.sign_sign, Int.sign_eq_one_of_pos (Int.natCast_pos.mpr (pos some_)), Int.mul_one]

theorem natAbs_sign_mul {n : Int} {count : Nat} (none : n = 0 → count = 0) : (n.sign * count).natAbs = count := by
  rcases eq_or_ne n 0 with rfl | some_
  · rw [none rfl]
    rfl
  · rw [Int.natAbs_mul, Int.natAbs_sign_of_ne_zero some_, Nat.one_mul, Int.natAbs_natCast]

theorem nearestInt_eq_iff {a b : Int} :
    nearestInt a = nearestInt b ↔ a.sign = b.sign ∧ nearest a.natAbs = nearest b.natAbs := by
  have sign (n : Int) : (nearestInt n).sign = n.sign :=
    sign_mul_sign fun some_ => nearest_pos (Int.natAbs_pos.mpr some_)
  have size (n : Int) : (nearestInt n).natAbs = nearest n.natAbs := by
    refine natAbs_sign_mul ?_
    rintro rfl
    exact nearest_of_lt (by decide)
  constructor
  · intro same
    exact ⟨by rw [← sign a, ← sign b, same], by rw [← size a, ← size b, same]⟩
  · rintro ⟨signs, sizes⟩
    rw [nearestInt, nearestInt, signs, sizes]

end Double

namespace Value

open Double (IsAlone nearest nearestInt)

theorem equal_through_iff (a b : Int64) : (∃ x : Float, x.isFinite = true ∧ (integer a).equal (float x) = true ∧
    (float x).equal (integer b) = true) ↔ nearestInt a.toInt = nearestInt b.toInt := by
  have left (x : Float) : (integer a).equal (float x) = (floatOfInt64 a == x) := by rw [equal]
  have right (x : Float) : (float x).equal (integer b) = (floatOfInt64 b == x) := by rw [equal]
  simp only [left, right, Double.floatOfInt64_beq_iff]
  constructor
  · rintro ⟨x, -, first, second⟩
    exact first.unique second
  · intro same
    have self := Double.represents_floatOfInt64 a
    exact ⟨floatOfInt64 a, self.isFinite, self, same ▸ self⟩

/-- No other number is rounded to the same exactly if the number is alone, also among those of 64 bits. -/
theorem alone_iff (a : Int64) :
    (∀ b : Int64, nearestInt a.toInt = nearestInt b.toInt → a = b) ↔ IsAlone a.toInt.natAbs := by
  constructor
  · intro only
    by_contra other
    have least := a.le_toInt
    have most := a.toInt_lt
    have long : 2 ^ 53 ≤ a.toInt.natAbs := Nat.not_lt.mp fun short => other (Or.inl short)
    obtain ⟨p, apart, small, same⟩ := Double.exists_same_nearest long (by omega) other
    have some_ : a.toInt ≠ 0 := by omega
    have pos : 0 < p := by
      refine Nat.pos_of_ne_zero ?_
      rintro rfl
      exact absurd same.symm (Double.nearest_pos (by omega)).ne'
    -- Another size with the same nearest double makes another number with it, by the sign of this one.
    have sign : (a.toInt.sign * p).sign = a.toInt.sign := Double.sign_mul_sign fun _ => pos
    have size : (a.toInt.sign * p).natAbs = p := Double.natAbs_sign_mul fun none => absurd none some_
    have read : (Int64.ofInt (a.toInt.sign * p)).toInt = a.toInt.sign * p :=
      Int64.toInt_ofInt_of_le (by omega) (by omega)
    have equal := only (.ofInt (a.toInt.sign * p)) (by rw [read, Double.nearestInt_eq_iff, sign, size, same]; trivial)
    rw [equal, read, size] at apart
    exact apart rfl
  · intro alone b same
    obtain ⟨signs, sizes⟩ := Double.nearestInt_eq_iff.mp same
    have same := alone.eq_of_nearest_eq sizes.symm
    refine Int64.toInt_inj.mp ?_
    rw [← Int.sign_mul_natAbs a.toInt, ← Int.sign_mul_natAbs b.toInt, signs, same]

/-- Two whole numbers are equal to one double exactly if the same number with 53 binary digits is nearest to both. So a
number is equal through doubles to no number but itself exactly if it has at most 53 binary digits, or 54 that end in a
one and a zero. -/
theorem equal_through_float_iff (a : Int64) :
    (∀ b : Int64, (∃ x : Float, x.isFinite = true ∧ (integer a).equal (float x) = true ∧
      (float x).equal (integer b) = true) ↔ nearestInt a.toInt = nearestInt b.toInt) ∧
    ((∀ (b : Int64) (x : Float), x.isFinite = true → (integer a).equal (float x) = true →
      (float x).equal (integer b) = true → a = b) ↔ IsAlone a.toInt.natAbs) := by
  refine ⟨equal_through_iff a, ?_⟩
  rw [← alone_iff a]
  constructor
  · intro through b same
    obtain ⟨x, finite, first, second⟩ := (equal_through_iff a b).mpr same
    exact through b x finite first second
  · intro only b x finite first second
    exact only b ((equal_through_iff a b).mp ⟨x, finite, first, second⟩)

/-- The first number with 54 digits that ends in a one is equal to the double of the number before it. -/
theorem equal_through_float_unequal :
    let a : Int64 := 9007199254740992
    let b : Int64 := 9007199254740993
    let x : Float := 9007199254740992
    x.isFinite = true ∧ (integer a).equal (float x) = true ∧ (float x).equal (integer b) = true ∧ a ≠ b := by
  intro a b x
  have left : (integer a).equal (float x) = (floatOfInt64 a == x) := by rw [equal]
  have right : (float x).equal (integer b) = (floatOfInt64 b == x) := by rw [equal]
  rw [left, right]
  decide +kernel

end Value

end Stencil
