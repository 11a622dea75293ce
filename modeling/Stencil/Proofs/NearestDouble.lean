import Mathlib
import Stencil.Value

/-! Whole numbers as doubles. A double keeps 53 binary digits: a number becomes the nearest one with so many, and of two
that are as near the one whose last digit is zero. -/

set_option autoImplicit false

namespace Stencil.Double

open Float.Model (Format UnpackedFloat)
open Float.Model.UnpackedFloat (Accuracy ExtendedMantissa Sign)

/-- The count of units nearest to a number, the even one halfway between two. -/
def roundEven (n unit : Nat) : Nat :=
  if 2 * (n % unit) < unit ∨ 2 * (n % unit) = unit ∧ n / unit % 2 = 0 then n / unit else n / unit + 1

/-- The distance of the numbers with 53 binary digits from each other where a number lies. -/
def spacing (n : Nat) : Nat := 2 ^ (n.log2 - 52)

/-- The number with 53 binary digits nearest to a number. -/
def nearest (n : Nat) : Nat := roundEven n (spacing n) * spacing n

section
variable {n unit : Nat}

theorem roundEven_bounds (n unit : Nat) : n / unit ≤ roundEven n unit ∧ roundEven n unit ≤ n / unit + 1 := by
  unfold roundEven
  split <;> omega

theorem roundEven_scale {c : Nat} (pos : 0 < c) (n unit : Nat) : roundEven (n * c) (unit * c) = roundEven n unit := by
  have half : 2 * (n % unit * c) < unit * c ↔ 2 * (n % unit) < unit := by
    rw [← Nat.mul_assoc, Nat.mul_lt_mul_right pos]
  have tie : 2 * (n % unit * c) = unit * c ↔ 2 * (n % unit) = unit := by
    rw [← Nat.mul_assoc, Nat.mul_left_inj (by omega)]
  simp only [roundEven, Nat.mul_mod_mul_right, Nat.mul_div_mul_right n unit pos, half, tie]

theorem roundEven_mul (count : Nat) (pos : 0 < unit) : roundEven (count * unit) unit = count := by
  simp [roundEven, pos, Nat.mul_div_cancel _ pos]

theorem spacing_pos (n : Nat) : 0 < spacing n := Nat.two_pow_pos _

theorem spacing_of_lt (small : n < 2 ^ 53) : spacing n = 1 := by
  have digits : n.log2 < 53 := by
    by_cases zero : n = 0
    · rw [zero]
      decide
    · exact (Nat.log2_lt zero).mpr small
  rw [spacing, Nat.sub_eq_zero_of_le (by omega), Nat.pow_zero]

theorem nearest_of_lt (small : n < 2 ^ 53) : nearest n = n := by
  have whole := roundEven_mul n Nat.one_pos
  rw [Nat.mul_one] at whole
  rw [nearest, spacing_of_lt small, Nat.mul_one, whole]

/-- Without the digits it has more than 53 of, a number has 53. -/
theorem quotient_bounds {count : Nat} (long : n.log2 = 52 + count) :
    2 ^ 52 ≤ n / 2 ^ count ∧ n / 2 ^ count < 2 ^ 53 := by
  have some_ : n ≠ 0 := by
    rintro rfl
    have none : Nat.log2 0 = 0 := by decide
    omega
  obtain ⟨least, most⟩ := (Nat.log2_eq_iff some_).mp long
  have pos := Nat.two_pow_pos count
  rw [Nat.le_div_iff_mul_le pos, Nat.div_lt_iff_lt_mul pos, ← pow_add, ← pow_add]
  exact ⟨least, by rwa [Nat.add_right_comm] at most⟩

/-- A number is rounded to a count of units that has 53 digits, or is the least that has one more. -/
theorem roundEven_spacing_bounds (long : 52 ≤ n.log2) :
    2 ^ 52 ≤ roundEven n (spacing n) ∧ roundEven n (spacing n) ≤ 2 ^ 53 := by
  obtain ⟨least, most⟩ := quotient_bounds (Nat.add_sub_cancel' long).symm
  obtain ⟨down, up⟩ := roundEven_bounds n (spacing n)
  exact ⟨least.trans down, up.trans most⟩

theorem log2_of_le {count : Nat} (large : 2 ^ count ≤ n) : count ≤ n.log2 :=
  (Nat.le_log2 (Nat.lt_of_lt_of_le (Nat.two_pow_pos count) large).ne').mpr large

/-- Rounding leads neither below a power of two nor above one. -/
theorem le_nearest {count : Nat} (digits : 52 ≤ count) (large : 2 ^ count ≤ n) : 2 ^ count ≤ nearest n := by
  have size := log2_of_le large
  calc
    2 ^ count ≤ 2 ^ n.log2 := Nat.pow_le_pow_right Nat.two_pos size
    _ = 2 ^ 52 * spacing n := by rw [spacing, ← pow_add, Nat.add_sub_cancel' (digits.trans size)]
    _ ≤ nearest n := Nat.mul_le_mul_right _ (roundEven_spacing_bounds (digits.trans size)).1

theorem nearest_le_pow {count : Nat} (small : n < 2 ^ count) : nearest n ≤ 2 ^ count := by
  rcases Nat.lt_or_ge n (2 ^ 53) with short | long
  · rw [nearest_of_lt short]
    exact small.le
  · have size : n.log2 < count := (Nat.log2_lt (by omega)).mpr small
    have long : 53 ≤ n.log2 := log2_of_le long
    calc
      nearest n ≤ 2 ^ 53 * spacing n := Nat.mul_le_mul_right _ (roundEven_spacing_bounds (by omega)).2
      _ = 2 ^ (n.log2 + 1) := by
        rw [spacing, ← pow_add]
        exact congrArg _ (by omega)
      _ ≤ 2 ^ count := Nat.pow_le_pow_right Nat.two_pos size

end

/-! ### Dropping digits -/

/-- What is kept of a mantissa from which digits were dropped, and how what was dropped compares to a half. -/
structure Dropped (m count : Nat) (kept : ExtendedMantissa) : Prop where
  mantissa : kept.mantissa = m / 2 ^ count
  roundBit : kept.roundBit = true ↔ 2 ^ count ≤ 2 * (m % 2 ^ count)
  stickyBit : kept.stickyBit = true ↔ m % 2 ^ count ≠ 0 ∧ 2 * (m % 2 ^ count) ≠ 2 ^ count

section
variable {m count : Nat} {kept : ExtendedMantissa}

theorem Dropped.start (m : Nat) : Dropped m 0 ⟨m, false, false⟩ := by
  constructor <;> simp [Nat.mod_one]

theorem Dropped.step (dropped : Dropped m count kept) : Dropped m (count + 1) kept.shiftRightOne := by
  obtain ⟨mantissa, roundBit, stickyBit⟩ := dropped
  -- The last digit that was kept is now the first of those that are dropped.
  have digits : m % (2 ^ count * 2) = m % 2 ^ count + 2 ^ count * (m / 2 ^ count % 2) := Nat.mod_mul
  have below : m % 2 ^ count < 2 ^ count := Nat.mod_lt _ (Nat.two_pow_pos _)
  constructor
  · rw [ExtendedMantissa.shiftRightOne, mantissa, Nat.div_div_eq_div_mul, pow_succ]
  all_goals
    simp only [ExtendedMantissa.shiftRightOne, mantissa, bne_iff_ne, ne_eq, Bool.or_eq_true, roundBit, stickyBit,
      pow_succ, digits]
    rcases Nat.mod_two_eq_zero_or_one (m / 2 ^ count) with digit | digit
    all_goals
      simp only [digit, Nat.mul_zero, Nat.mul_one, not_true_eq_false, false_iff]
      generalize m % 2 ^ count = rest at below ⊢
      generalize 2 ^ count = unit at below ⊢
      omega

theorem Dropped.shift (m count : Nat) : Dropped m count ((⟨m, false, false⟩ : ExtendedMantissa) >>> count) := by
  induction count with
  | zero => exact .start m
  | succ count ih => exact ih.step

/-- The two bits tell which way to round. -/
theorem Dropped.rounded (dropped : Dropped m count kept) : kept.roundedMantissa = roundEven m (2 ^ count) := by
  obtain ⟨mantissa, roundBit, stickyBit⟩ := dropped
  obtain ⟨number, half, more⟩ := kept
  simp only at mantissa roundBit stickyBit
  subst mantissa
  have pos := Nat.two_pow_pos count
  rw [roundEven]
  cases half <;> cases more
  all_goals
    simp only [Bool.false_eq_true, false_iff, true_iff] at roundBit stickyBit
    simp only [ExtendedMantissa.roundedMantissa, ExtendedMantissa.accuracy, Accuracy.roundToNearestEven]
    split <;> omega

end

/-! ### Doubles that stand for whole numbers -/

/-- A mantissa of 53 binary digits and an exponent that make up a whole number. -/
structure Stands (m : Nat) (e : Int) (n : Nat) : Prop where
  low : 2 ^ 52 ≤ m
  high : m < 2 ^ 53
  above : -52 ≤ e
  value : m * 2 ^ (e + 52).toNat = n * 2 ^ 52

section
variable {m n : Nat} {e : Int}

/-- The power of two decides which numbers have their digits before it. -/
theorem scaled_inj {m' a b : Nat} (low : 2 ^ 52 ≤ m) (high : m < 2 ^ 53) (low' : 2 ^ 52 ≤ m') (high' : m' < 2 ^ 53)
    (same : m * 2 ^ a = m' * 2 ^ b) : a = b ∧ m = m' := by
  have apart {m m' a b : Nat} (high : m < 2 ^ 53) (low' : 2 ^ 52 ≤ m') (less : a < b) : m * 2 ^ a < m' * 2 ^ b :=
    calc
      m * 2 ^ a < 2 ^ 53 * 2 ^ a := Nat.mul_lt_mul_of_pos_right high (Nat.two_pow_pos a)
      _ = 2 ^ 52 * 2 ^ (a + 1) := by ring
      _ ≤ m' * 2 ^ b := Nat.mul_le_mul low' (Nat.pow_le_pow_right Nat.two_pos less)
  rcases Nat.lt_trichotomy a b with less | rfl | less
  · exact absurd same (apart high low' less).ne
  · exact ⟨rfl, Nat.eq_of_mul_eq_mul_right (Nat.two_pow_pos a) same⟩
  · exact absurd same (apart high' low less).ne'

theorem Stands.unique {m' : Nat} {e' : Int} (stands : Stands m e n) (other : Stands m' e' n) : m = m' ∧ e = e' := by
  obtain ⟨exponents, mantissas⟩ :=
    scaled_inj stands.low stands.high other.low other.high (stands.value.trans other.value.symm)
  have above := stands.above
  have above' := other.above
  exact ⟨mantissas, by omega⟩

theorem Stands.number_unique {n' : Nat} (stands : Stands m e n) (other : Stands m e n') : n = n' :=
  Nat.eq_of_mul_eq_mul_right (Nat.two_pow_pos 52) (stands.value.symm.trans other.value)

/-- A number that has no more digits than a mantissa is the mantissa but for zeros behind it. -/
theorem Stands.eq_scaled (stands : Stands m e n) (short : n < 2 ^ 53) :
    ∃ places : Nat, m = n * 2 ^ places ∧ e = -places := by
  obtain ⟨low, high, above, value⟩ := stands
  obtain ⟨power, exponent⟩ : ∃ power : Nat, (power : Int) = e + 52 := ⟨_, Int.toNat_of_nonneg (by omega)⟩
  rw [← exponent, Int.toNat_natCast] at value
  have small : power ≤ 52 := by
    by_contra large
    have double : 2 ^ 52 * 2 ^ 53 ≤ m * 2 ^ power :=
      Nat.mul_le_mul low (Nat.pow_le_pow_right Nat.two_pos (Nat.not_le.mp large))
    omega
  refine ⟨52 - power, ?_, by omega⟩
  refine Nat.eq_of_mul_eq_mul_right (Nat.two_pow_pos power) ?_
  rw [value, Nat.mul_assoc, ← pow_add, Nat.sub_add_cancel small]

/-- Numbers of 64 bits are far from the greatest exponent. -/
theorem Stands.le (stands : Stands m e n) (small : n ≤ 2 ^ 64) : e ≤ 64 := by
  have bound : 2 ^ 52 * 2 ^ (e + 52).toNat ≤ 2 ^ 52 * 2 ^ 64 :=
    calc
      2 ^ 52 * 2 ^ (e + 52).toNat ≤ m * 2 ^ (e + 52).toNat := Nat.mul_le_mul_right _ stands.low
      _ = n * 2 ^ 52 := stands.value
      _ ≤ 2 ^ 52 * 2 ^ 64 := by omega
  have exponents := (Nat.pow_le_pow_iff_right (by decide)).mp (Nat.le_of_mul_le_mul_left bound (Nat.two_pow_pos 52))
  omega

end

section
variable {m n count : Nat} {e : Int}

/-- The exponent at which a mantissa keeps 53 digits. -/
theorem targetExponent_eq (above : -1022 ≤ m.log2 + e) :
    Format.binary64.targetExponent (Float.Model.totalExponent m e) = m.log2 + e - 52 := by
  simp only [Format.targetExponent, Float.Model.totalExponent, Format.mantissaBits, Format.minExponent]
  omega

theorem shiftToTargetExponent_eq (long : m.log2 = 52 + count) (above : -1022 ≤ m.log2 + e) :
    UnpackedFloat.shiftToTargetExponent .binary64 m e .exact =
      ((⟨m, false, false⟩ : ExtendedMantissa) >>> count, e + count) := by
  have amount : (m.log2 + e - 52 - e).toNat = count := by omega
  simp only [UnpackedFloat.shiftToTargetExponent, targetExponent_eq above,
    UnpackedFloat.shiftToExponent, amount, ExtendedMantissa.ofMantissaAndAccuracy]

/-- A rounded mantissa has 53 digits, or it is the least number that has one more and loses it again. -/
theorem shiftToTargetExponent_rounded {rounded : Nat} (low : 2 ^ 52 ≤ rounded) (high : rounded ≤ 2 ^ 53)
    (above : -1074 ≤ e) : let shifted := UnpackedFloat.shiftToTargetExponent .binary64 rounded e .exact
    if rounded = 2 ^ 53 then shifted.1.mantissa = 2 ^ 52 ∧ shifted.2 = e + 1
    else shifted.1.mantissa = rounded ∧ shifted.2 = e := by
  intro shifted
  split
  next carry =>
    subst carry
    have longer : (2 ^ 53).log2 = 52 + 1 := by decide
    have above : -1022 ≤ (2 ^ 53).log2 + e := by omega
    have shape : shifted = _ := shiftToTargetExponent_eq longer above
    rw [shape]
    exact ⟨(Dropped.shift (2 ^ 53) 1).mantissa, rfl⟩
  next =>
    have long : rounded.log2 = 52 + 0 := (Nat.log2_eq_iff (by omega)).mpr ⟨low, by omega⟩
    have above : -1022 ≤ rounded.log2 + e := by omega
    have shape : shifted = _ := shiftToTargetExponent_eq long above
    rw [shape]
    exact ⟨(Dropped.shift rounded 0).mantissa.trans (Nat.div_one _), Int.add_zero _⟩

theorem roundWithAccuracy_eq (sign : Sign) (long : m.log2 = 52 + count) (above : -1022 ≤ m.log2 + e) :
    let rounded := roundEven m (2 ^ count)
    2 ^ 52 ≤ rounded ∧ rounded ≤ 2 ^ 53 ∧ ∃ m' e' pos,
      UnpackedFloat.roundWithAccuracy .binary64 sign m e .exact = .finite sign m' e' pos ∧
      if rounded = 2 ^ 53 then m' = 2 ^ 52 ∧ e' = e + count + 1 else m' = rounded ∧ e' = e + count := by
  intro rounded
  obtain ⟨least, most⟩ := quotient_bounds long
  obtain ⟨down, up⟩ := roundEven_bounds m (2 ^ count)
  have low : 2 ^ 52 ≤ rounded := least.trans down
  have high : rounded ≤ 2 ^ 53 := up.trans most
  have settled := shiftToTargetExponent_rounded (e := e + count) low high (by omega)
  have pos : (UnpackedFloat.shiftToTargetExponent .binary64 rounded (e + count) .exact).1.mantissa ≠ 0 := by
    split at settled <;> omega
  refine ⟨low, high, _, _, Nat.pos_of_ne_zero pos, ?_, settled⟩
  have first := (Dropped.shift m count).rounded
  simp only [UnpackedFloat.roundWithAccuracy, shiftToTargetExponent_eq long above, first]
  exact dif_neg pos

theorem log2_scale (pos : 0 < n) (places : Nat) : (n * 2 ^ places).log2 = n.log2 + places := by
  have some_ : n ≠ 0 := pos.ne'
  obtain ⟨low, high⟩ := (Nat.log2_eq_iff some_).mp rfl
  refine (Nat.log2_eq_iff (Nat.mul_ne_zero some_ (Nat.two_pow_pos places).ne')).mpr ⟨?_, ?_⟩
  · rw [pow_add]
    exact Nat.mul_le_mul_right _ low
  · rw [Nat.add_right_comm, pow_add]
    exact Nat.mul_lt_mul_of_pos_right high (Nat.two_pow_pos places)

/-- A number is rounded alike with any zeros behind it that fill its 53 digits. -/
theorem roundEven_nearest (pos : 0 < n) {places : Nat} (filled : n.log2 + places = 52 + count) :
    roundEven (n * 2 ^ places) (2 ^ count) * 2 ^ n.log2 = nearest n * 2 ^ 52 := by
  rcases Nat.lt_or_ge n.log2 52 with short | long
  · -- All digits are kept, so nothing is rounded.
    have small : n < 2 ^ 53 := (Nat.log2_lt pos.ne').mp (Nat.lt_succ_of_lt short)
    have zeros : places = 52 - n.log2 + count := by omega
    rw [nearest_of_lt small, zeros, pow_add, ← Nat.mul_assoc, roundEven_mul _ (Nat.two_pow_pos count), Nat.mul_assoc,
      ← pow_add, Nat.sub_add_cancel short.le]
  · have dropped : count = n.log2 - 52 + places := by omega
    have digits : 2 ^ n.log2 = 2 ^ (n.log2 - 52) * 2 ^ 52 := by rw [← pow_add, Nat.sub_add_cancel long]
    rw [dropped, pow_add, roundEven_scale (Nat.two_pow_pos places), digits, ← Nat.mul_assoc]
    rfl

/-- A number with zeros behind it is rounded to the double nearest to the number. -/
theorem roundWithAccuracy_stands (sign : Sign) (pos : 0 < n) {places : Nat} (room : 52 ≤ n.log2 + places) :
    ∃ m e pos, UnpackedFloat.roundWithAccuracy .binary64 sign (n * 2 ^ places) (-places) .exact =
      .finite sign m e pos ∧ Stands m e (nearest n) := by
  obtain ⟨count, filled⟩ := Nat.exists_eq_add_of_le room
  have long : (n * 2 ^ places).log2 = 52 + count := (log2_scale pos places).trans filled
  have above : -1022 ≤ ((n * 2 ^ places).log2 : Int) + -places := by omega
  obtain ⟨low, high, m, e, pos', result, cases_⟩ := roundWithAccuracy_eq sign long above
  have value := roundEven_nearest pos filled
  refine ⟨m, e, pos', result, ?_⟩
  generalize roundEven (n * 2 ^ places) (2 ^ count) = rounded at *
  split at cases_
  next carry =>
    -- The mantissa lost a zero at its end, which the exponent makes up for.
    obtain ⟨rfl, rfl⟩ := cases_
    have exponent : (-(places : Int) + count + 1 + 52).toNat = n.log2 + 1 := by omega
    refine ⟨Nat.le_refl _, by decide, by omega, ?_⟩
    rw [exponent, ← value, carry]
    ring
  next fits =>
    obtain ⟨rfl, rfl⟩ := cases_
    have exponent : (-(places : Int) + count + 52).toNat = n.log2 := by omega
    exact ⟨low, Nat.lt_of_le_of_ne high fits, by omega, by rw [exponent, value]⟩

end

/-! ### The doubles of whole numbers -/

/-- The bits of a double with all 53 digits tell its sign, its digits and its exponent. -/
theorem unpack_pack (sign : Sign) {m : Nat} {e : Int} (pos : 0 < m) (low : 2 ^ 52 ≤ m) (high : m < 2 ^ 53)
    (above : -1074 ≤ e) (below : e ≤ 971) :
    (Float.Model.pack (.finite sign m e pos)).unpack = .finite sign m e pos := by
  have long : m.log2 = 52 := (Nat.log2_eq_iff pos.ne').mpr ⟨low, high⟩
  obtain ⟨biased, exponent⟩ : ∃ biased : Nat, (biased : Int) = e + 1075 := ⟨_, Int.toNat_of_nonneg (by omega)⟩
  have packed : UnpackedFloat.pack .binary64 (.finite sign m e pos) =
      UnpackedFloat.packComponents .binary64 sign (BitVec.ofNat 11 biased) (BitVec.ofNat 52 m) := by
    have shifted : (e + Format.binary64.exponentBias + Format.binary64.mantissaBitsWithoutImplicit).toNat = biased := by
      show (e + 1023 + 52).toNat = biased
      omega
    have finite : ¬2 ^ Format.binary64.exponentBits ≤ biased + 1 := by
      show ¬2048 ≤ biased + 1
      omega
    simp only [UnpackedFloat.pack, long, shifted]
    rw [if_neg finite, if_pos (by decide)]
  have bits : (BitVec.ofNat 11 biased).toNat = biased := by
    rw [BitVec.toNat_ofNat]
    omega
  have ordinary : BitVec.ofNat 11 biased ≠ -1#11 := by
    intro same
    have same : biased = 2047 := bits.symm.trans (congrArg BitVec.toNat same)
    omega
  have normal : BitVec.ofNat 11 biased ≠ 0#11 := by
    intro same
    have same : biased = 0 := bits.symm.trans (congrArg BitVec.toNat same)
    omega
  have digits : (1#1 ++ BitVec.ofNat 52 m).toNat = m := by
    rw [BitVec.toNat_append, ← Nat.shiftLeft_add_eq_or_of_lt (BitVec.ofNat 52 m).isLt, BitVec.toNat_ofNat,
      Nat.shiftLeft_eq]
    show 1 * 2 ^ 52 + m % 2 ^ 52 = m
    omega
  show UnpackedFloat.unpack .binary64 (UnpackedFloat.pack .binary64 (.finite sign m e pos)) = _
  rw [packed, UnpackedFloat.unpack]
  simp only [UnpackedFloat.unpackMantissa_packComponents, UnpackedFloat.unpackExponent_packComponents,
    UnpackedFloat.unpackSign_packComponents, Sign.ofBitVec_toBitVec, ordinary, normal, if_false, digits, bits]
  have back : (biased : Int) - (1023 + 52) = e := by omega
  exact congrArg (UnpackedFloat.finite sign m · pos) back

/-- A finite double that stands for a whole number with a sign. -/
def IsWhole (sign : Sign) (n : Nat) (x : UnpackedFloat) : Prop := ∃ m e pos, x = .finite sign m e pos ∧ Stands m e n

section
variable {n : Nat}

/-- A double that stands for a number of 64 bits is told by its bits. -/
theorem Stands.unpack_pack {m : Nat} {e : Int} (stands : Stands m e n) (small : n ≤ 2 ^ 64) (sign : Sign) (pos : 0 < m) :
    (Float.Model.pack (.finite sign m e pos)).unpack = .finite sign m e pos := by
  have above := stands.above
  have below := stands.le small
  exact Double.unpack_pack sign pos stands.low stands.high (by omega) (by omega)

theorem isWhole_round (sign : Sign) (pos : 0 < n) (small : n ≤ 2 ^ 63) {places : Nat} (room : 52 ≤ n.log2 + places) :
    IsWhole sign (nearest n) (Float.Model.pack
      (UnpackedFloat.roundWithAccuracy .binary64 sign (n * 2 ^ places) (-places) .exact)).unpack := by
  obtain ⟨m, e, pos', result, stands⟩ := roundWithAccuracy_stands sign pos room
  rw [result, stands.unpack_pack (nearest_le_pow (Nat.lt_of_le_of_lt small (by decide)))]
  exact ⟨m, e, pos', rfl, stands⟩

theorem ofNat_eq_round (pos : 0 < n) (small : n < 2 ^ 53) : UnpackedFloat.ofNat .binary64 n =
    UnpackedFloat.roundWithAccuracy .binary64 .positive (n * 2 ^ (52 - n.log2)) (-(52 - n.log2 : Nat)) .exact := by
  have short : n.log2 ≤ 52 := Nat.le_of_lt_succ ((Nat.log2_lt pos.ne').mpr small)
  have greater : compare (n : Int) 0 = .gt := Int.compare_eq_gt.mpr (by omega)
  have target := targetExponent_eq (m := n) (e := 0) (by omega)
  have places : (-((n.log2 : Int) + 0 - 52)).toNat = 52 - n.log2 := by omega
  simp only [UnpackedFloat.ofNat, UnpackedFloat.ofInt, UnpackedFloat.normalize, greater, UnpackedFloat.round,
    Int.toNat_natCast, target, UnpackedFloat.decreaseExponent, places, Nat.shiftLeft_eq, Int.zero_sub]

/-- A number with at most 53 digits is read and then multiplied by one. -/
theorem ofNat_of_lt (small : n < 2 ^ 53) : (Float.ofNat n).toModel = Float.Model.pack (UnpackedFloat.mul .binary64
    (Float.Model.pack (UnpackedFloat.ofNat .binary64 n)).unpack (.finite .positive (2 ^ 52) (-52) (by decide))) := by
  have read : n.toUInt64.toNat = n := UInt64.toNat_ofNat_of_lt (Nat.lt_trans small (by decide))
  have word : Float.Model.ofUInt64 n.toUInt64 = Float.Model.pack (UnpackedFloat.ofNat .binary64 n) :=
    congrArg (Float.Model.pack <| UnpackedFloat.ofNat .binary64 ·) read
  have one : (Float.Model.ofBits 0x3FF0000000000000).unpack = .finite .positive (2 ^ 52) (-52) (by decide) := rfl
  show (Float.ofScientific n false 0).toModel = _
  rw [Float.ofScientific, dif_pos ⟨small, by decide⟩, ← word, ← one]
  rfl

theorem ofNat_of_le (large : 2 ^ 53 ≤ n) : (Float.ofNat n).toModel = Float.Model.pack
    (UnpackedFloat.roundWithAccuracy .binary64 .positive (n * 2 ^ 53) (-(53 : Nat)) .exact) := by
  have some_ : n ≠ 0 := by omega
  show (Float.ofScientific n false 0).toModel = _
  rw [Float.ofScientific, dif_neg fun small => absurd small.1 (Nat.not_lt.mpr large)]
  show Float.Model.pack (UnpackedFloat.ofScientific .binary64 n 0) = _
  have apart : ¬(0 : Int) < -(2 ^ 11 + n.log2) := by omega
  rw [UnpackedFloat.ofScientific, dif_neg some_, if_neg (by decide), if_neg apart, if_pos (Int.le_refl 0)]
  show Float.Model.pack (UnpackedFloat.roundWithAccuracy .binary64 .positive (n <<< 53 * 1) (-53 + 0) .exact) = _
  rw [Nat.shiftLeft_eq, Nat.mul_one]
  rfl

theorem isWhole_ofNat (pos : 0 < n) (small : n ≤ 2 ^ 63) :
    IsWhole .positive (nearest n) (Float.ofNat n).toModel.unpack := by
  rcases Nat.lt_or_ge n (2 ^ 53) with short | long
  · have short_ : n.log2 ≤ 52 := Nat.le_of_lt_succ ((Nat.log2_lt pos.ne').mpr short)
    have room : 52 ≤ n.log2 + (52 - n.log2) := by omega
    obtain ⟨m, e, pos', result, stands⟩ := isWhole_round .positive pos small room
    -- The product has more zeros behind the number, so it is rounded to the same.
    rw [nearest_of_lt short] at stands
    obtain ⟨places, rfl, rfl⟩ := stands.eq_scaled short
    have product : UnpackedFloat.mul .binary64 (.finite .positive (n * 2 ^ places) (-places) pos')
        (.finite .positive (2 ^ 52) (-52) (by decide)) =
        UnpackedFloat.roundWithAccuracy .binary64 .positive (n * 2 ^ (places + 52)) (-(places + 52 : Nat)) .exact := by
      rw [pow_add, ← Nat.mul_assoc, Int.natCast_add, Int.neg_add]
      rfl
    rw [ofNat_of_lt short, ofNat_eq_round pos short, result, product]
    exact isWhole_round .positive pos small (by omega)
  · rw [ofNat_of_le long]
    exact isWhole_round .positive pos small (by omega)

theorem IsWhole.neg {sign : Sign} {x : UnpackedFloat} (whole : IsWhole sign n x) (small : n ≤ 2 ^ 64) :
    IsWhole (-sign) n (Float.Model.pack x.neg).unpack := by
  obtain ⟨m, e, pos, rfl, stands⟩ := whole
  rw [UnpackedFloat.neg, stands.unpack_pack small]
  exact ⟨m, e, pos, rfl, stands⟩

end

/-! ### Whole numbers with a sign, and when their doubles are equal -/

/-- The whole number nearest to one with a sign that has 53 binary digits. -/
def nearestInt (n : Int) : Int := n.sign * nearest n.natAbs

/-- The whole number that a double is, whatever the sign of a zero. -/
inductive Represents : UnpackedFloat → Int → Prop
  | zero (sign : Sign) : Represents (.zero sign) 0
  | finite {sign : Sign} {m n : Nat} {e : Int} (pos : 0 < m) : Stands m e n →
      Represents (.finite sign m e pos) (sign.apply n)

theorem IsWhole.represents {sign : Sign} {n : Nat} {x : UnpackedFloat} (whole : IsWhole sign n x) :
    Represents x (sign.apply n) := by
  obtain ⟨m, e, pos, rfl, stands⟩ := whole
  exact .finite pos stands

theorem represents_floatOfInt64 (n : Int64) : Represents (Value.floatOfInt64 n).toModel.unpack (nearestInt n.toInt) := by
  have least := n.le_toInt
  have most := n.toInt_lt
  rw [Value.floatOfInt64]
  generalize n.toInt = n at *
  cases n with
  | ofNat n =>
    rcases Nat.eq_zero_or_pos n with rfl | pos
    · exact .zero .positive
    · have small : n ≤ 2 ^ 63 := by
        rw [Int.ofNat_eq_natCast] at most
        omega
      have number : nearestInt n = Sign.positive.apply (nearest n) := by
        rw [nearestInt, Int.sign_eq_one_of_pos (by omega), Int.natAbs_natCast, Int.one_mul]
        rfl
      rw [Int.ofNat_eq_natCast, number]
      exact (isWhole_ofNat pos small).represents
  | negSucc n =>
    -- The least number has no positive one of its size among those of 64 bits, but a double has a sign of its own.
    have small : n + 1 ≤ 2 ^ 63 := by omega
    have number : nearestInt (Int.negSucc n) = Sign.negative.apply (nearest (n + 1)) := Int.neg_one_mul _
    rw [number]
    exact ((isWhole_ofNat n.succ_pos small).neg (nearest_le_pow (Nat.lt_of_le_of_lt small (by decide)))).represents

theorem Stands.pos {m n : Nat} {e : Int} (stands : Stands m e n) : 0 < n := by
  have value := stands.value
  have some_ : 0 < m * 2 ^ (e + 52).toNat :=
    Nat.mul_pos (Nat.lt_of_lt_of_le (Nat.two_pow_pos 52) stands.low) (Nat.two_pow_pos _)
  omega

section
variable {x y : UnpackedFloat} {z w : Int}

theorem apply_inj {sign sign' : Sign} {n n' : Nat} (pos : 0 < n) (same : sign.apply n = sign'.apply n') :
    sign = sign' ∧ n = n' := by
  cases sign <;> cases sign' <;> simp [Sign.apply] at same ⊢ <;> omega

theorem apply_ne_zero (sign : Sign) {n : Nat} (pos : 0 < n) : sign.apply n ≠ 0 := by
  cases sign <;> simp [Sign.apply] <;> omega

theorem represents_zero_iff {sign : Sign} : Represents (.zero sign) z ↔ z = 0 := by
  constructor
  · intro represents
    cases represents
    rfl
  · rintro rfl
    exact .zero sign

theorem represents_finite_iff {sign : Sign} {m : Nat} {e : Int} {pos : 0 < m} :
    Represents (.finite sign m e pos) z ↔ ∃ n, Stands m e n ∧ z = sign.apply n := by
  constructor
  · rintro ⟨⟩
    exact ⟨_, ‹_›, rfl⟩
  · rintro ⟨n, stands, rfl⟩
    exact .finite pos stands

theorem Represents.isFinite (represents : Represents x z) : x.isFinite = true := by
  cases represents <;> rfl

theorem Represents.unique (represents : Represents x z) (other : Represents x w) : z = w := by
  cases represents with
  | zero => exact (represents_zero_iff.mp other).symm
  | finite pos stands =>
    obtain ⟨n, stands', rfl⟩ := represents_finite_iff.mp other
    rw [stands.number_unique stands']

theorem Represents.ne_notANumber (represents : Represents x z) : x ≠ .notANumber := by
  rintro rfl
  cases represents

/-- Only zero is two doubles, which differ in their signs. -/
theorem Represents.eq_or_zero (represents : Represents x z) (other : Represents y z) :
    x = y ∨ (∃ sign, x = .zero sign) ∧ ∃ sign, y = .zero sign := by
  cases represents with
  | zero sign =>
    cases y with
    | zero sign' => exact .inr ⟨⟨sign, rfl⟩, sign', rfl⟩
    | finite sign' =>
      obtain ⟨n, stands, same⟩ := represents_finite_iff.mp other
      exact absurd same.symm (apply_ne_zero sign' stands.pos)
    | infinity => cases other
    | notANumber => cases other
  | @finite sign _ n _ _ stands =>
    cases y with
    | zero => exact absurd (represents_zero_iff.mp other) (apply_ne_zero sign stands.pos)
    | finite =>
      obtain ⟨n', stands', same⟩ := represents_finite_iff.mp other
      obtain ⟨rfl, rfl⟩ := apply_inj stands.pos same
      obtain ⟨rfl, rfl⟩ := stands.unique stands'
      exact .inl rfl
    | infinity => cases other
    | notANumber => cases other

/-- A double is equal to that of a whole number exactly if it is the number. -/
theorem Represents.beq_iff (represents : Represents x z) : x.beq y = true ↔ Represents y z := by
  rw [UnpackedFloat.beq_iff_ne_notANumber_and_eq]
  constructor
  · rintro ⟨-, -, rfl | ⟨rfl, rfl⟩ | ⟨rfl, rfl⟩⟩
    · exact represents
    · exact represents_zero_iff.mpr (represents_zero_iff.mp represents)
    · exact represents_zero_iff.mpr (represents_zero_iff.mp represents)
  · intro other
    refine ⟨represents.ne_notANumber, other.ne_notANumber, ?_⟩
    rcases represents.eq_or_zero other with same | ⟨⟨sign, rfl⟩, sign', rfl⟩
    · exact .inl same
    · cases sign <;> cases sign' <;> simp

/-- The double of a whole number is that of the nearest one with 53 digits, and equal to nothing else. -/
theorem floatOfInt64_beq_iff (n : Int64) (x : Float) :
    (Value.floatOfInt64 n == x) = true ↔ Represents x.toModel.unpack (nearestInt n.toInt) :=
  (represents_floatOfInt64 n).beq_iff

end

end Stencil.Double
