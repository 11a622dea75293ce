import Mathlib.Algebra.Order.Field.Power
import Mathlib.Data.List.DropRight
import Mathlib.Tactic.FieldSimp
import Mathlib.Tactic.Linarith
import Mathlib.Tactic.Positivity
import Stencil.Decimal.Layout
import Stencil.Proofs.Numerals

/-! The shortest decimal of a double: the search for one always ends with one, and its digits have no zero at either
end. -/

set_option autoImplicit false

namespace Stencil.Decimal

open Text (isDigit)

/-- Decimal digits of which the first is not zero. -/
structure Scientific.WellFormed (s : Scientific) : Prop where
  digits : ∀ c ∈ s.digits, isDigit c = true
  some_ : s.digits ≠ []
  lead : s.digits.head? ≠ some '0'

/-- A decimal without zeros at its end. -/
structure Scientific.Reduced (s : Scientific) : Prop extends s.WellFormed where
  last : s.digits.getLast? ≠ some '0'

theorem zpow_eq (base : Nat) (e : Int) :
    (base : ℚ) ^ e = if 0 ≤ e then (Nat.pow base e.toNat : ℚ) else (Nat.pow base (-e).toNat : ℚ)⁻¹ := by
  split
  next up =>
    obtain ⟨n, rfl⟩ := Int.eq_ofNat_of_zero_le up
    simp
  next down =>
    obtain ⟨n, rfl⟩ : ∃ n : Nat, e = -n := ⟨(-e).toNat, by omega⟩
    simp

namespace Ratio

/-- The number of a fraction. -/
def toRat (r : Ratio) : ℚ := r.num / r.den

theorem le_iff {a b : Ratio} (den : 0 < a.den) (denOther : 0 < b.den) : a.le b = true ↔ a.toRat ≤ b.toRat := by
  rw [le, decide_eq_true_iff, toRat, toRat, div_le_div_iff₀ (by exact_mod_cast den) (by exact_mod_cast denOther)]
  exact_mod_cast Iff.rfl

theorem lt_iff {a b : Ratio} (den : 0 < a.den) (denOther : 0 < b.den) : a.lt b = true ↔ a.toRat < b.toRat := by
  rw [lt, decide_eq_true_iff, toRat, toRat, div_lt_div_iff₀ (by exact_mod_cast den) (by exact_mod_cast denOther)]
  exact_mod_cast Iff.rfl

theorem scale_den_pos {r : Ratio} (den : 0 < r.den) (power : Int) : 0 < (r.scale power).den := by
  unfold scale
  split
  next => exact den
  next => exact Nat.mul_pos den (Nat.pow_pos (by decide))

theorem toRat_scale (r : Ratio) (power : Int) : (r.scale power).toRat = r.toRat * 10 ^ power := by
  have ten := zpow_eq 10 power
  rw [Nat.cast_ofNat] at ten
  unfold scale
  rw [ten]
  split
  next => rw [toRat, toRat, Nat.cast_mul, mul_div_right_comm]
  next => rw [toRat, toRat, Nat.cast_mul, div_mul_eq_div_div, div_eq_mul_inv _ (Nat.cast _)]

/-- The whole part of a fraction. -/
theorem floor_bounds {r : Ratio} (den : 0 < r.den) :
    ((r.num / r.den : Nat) : ℚ) ≤ r.toRat ∧ r.toRat < ((r.num / r.den + 1 : Nat) : ℚ) := by
  have pos : (0 : ℚ) < r.den := by exact_mod_cast den
  rw [toRat, le_div_iff₀ pos, div_lt_iff₀ pos]
  have above := (Nat.div_lt_iff_lt_mul den).mp (Nat.lt_succ_self (r.num / r.den))
  exact ⟨by exact_mod_cast Nat.div_mul_le_self r.num r.den, by exact_mod_cast above⟩

end Ratio

namespace Binary

variable {b : Binary}

theorem quarters_den_pos (count : Nat) (b : Binary) : 0 < (b.quarters count).den := by
  unfold quarters
  split
  next => exact Nat.succ_pos 3
  next => exact Nat.mul_pos (by decide) (Nat.pow_pos (by decide))

theorem toRat_quarters (count : Nat) (b : Binary) : (b.quarters count).toRat = count / 4 * 2 ^ b.exponent := by
  have two := zpow_eq 2 b.exponent
  rw [Nat.cast_ofNat] at two
  unfold quarters
  rw [two]
  split
  next => rw [Ratio.toRat, Nat.cast_mul, Nat.cast_ofNat, mul_div_right_comm]
  next => rw [Ratio.toRat, Nat.cast_mul, Nat.cast_ofNat, div_mul_eq_div_div, div_eq_mul_inv _ (Nat.cast _)]

/-- What lies between the bounds stands for the number, whether they are included or not. -/
theorem standsFor_of_lt {power : Int} {n : Nat} (above : b.lower.toRat < n * 10 ^ power)
    (below : (n : ℚ) * 10 ^ power < b.upper.toRat) : standsFor b power n = true := by
  have number : ((⟨n, 1⟩ : Ratio).scale power).toRat = n * 10 ^ power := by
    rw [Ratio.toRat_scale, Ratio.toRat, Nat.cast_one, div_one]
  have den : 0 < ((⟨n, 1⟩ : Ratio).scale power).den := Ratio.scale_den_pos Nat.one_pos power
  rw [← number] at above below
  unfold standsFor
  split
  next =>
    exact Bool.and_eq_true_iff.mpr ⟨(Ratio.le_iff (quarters_den_pos _ b) den).mpr above.le,
      (Ratio.le_iff den (quarters_den_pos _ b)).mpr below.le⟩
  next =>
    exact Bool.and_eq_true_iff.mpr ⟨(Ratio.lt_iff (quarters_den_pos _ b) den).mpr above,
      (Ratio.lt_iff den (quarters_den_pos _ b)).mpr below⟩

theorem value_den_pos (b : Binary) : 0 < b.value.den := quarters_den_pos _ b

theorem two_zpow (e : Int) : (2 : ℚ) ^ e = 2 * 2 ^ (e - 1) := by
  rw [← zpow_one_add₀ (by decide)]
  exact congrArg _ (by omega)

theorem toRat_value (b : Binary) : b.value.toRat = b.mantissa * 2 ^ b.exponent := by
  rw [value, toRat_quarters]
  push_cast
  ring

/-- On a grid finer than half the unit in the last place, the multiple above the number stands for it. -/
theorem standsFor_next {power : Int} (fine : (10 : ℚ) ^ power < 2 ^ (b.exponent - 1)) :
    standsFor b power ((b.value.scale (-power)).num / (b.value.scale (-power)).den + 1) = true := by
  have pos : (0 : ℚ) < 10 ^ power := zpow_pos (by decide) power
  obtain ⟨least, most⟩ := Ratio.floor_bounds (Ratio.scale_den_pos b.value_den_pos (-power))
  generalize (b.value.scale (-power)).num / (b.value.scale (-power)).den = n at least most
  rw [Ratio.toRat_scale, zpow_neg, ← div_eq_mul_inv] at least most
  rw [le_div_iff₀ pos] at least
  rw [div_lt_iff₀ pos] at most
  refine standsFor_of_lt (lt_of_le_of_lt ?_ most) ?_
  · rw [lower, value, toRat_quarters, toRat_quarters]
    gcongr
    exact Nat.sub_le _ _
  · calc
      ((n + 1 : Nat) : ℚ) * 10 ^ power = n * 10 ^ power + 10 ^ power := by push_cast; ring
      _ < b.value.toRat + 2 ^ (b.exponent - 1) := add_lt_add_of_le_of_lt least fine
      _ = b.upper.toRat := by
        rw [toRat_value, upper, toRat_quarters, two_zpow b.exponent]
        push_cast
        ring

end Binary

section
variable {tie : Tie} {b : Binary} {power : Int}

theorem exists_onGrid
    (above : standsFor b power ((b.value.scale (-power)).num / (b.value.scale (-power)).den + 1) = true) :
    ∃ n, onGrid tie b power = some n := by
  unfold onGrid
  simp only [above]
  split
  next =>
    split
    next => exact ⟨_, rfl⟩
    next => exact ⟨_, rfl⟩
  next => exact ⟨_, rfl⟩
  next => exact ⟨_, rfl⟩
  next => contradiction

theorem onGrid_ne_zero {n : Nat} (found : onGrid tie b power = some n) : n ≠ 0 := by
  simp only [onGrid] at found
  split at found
  next below _ =>
    have some_ := (Bool.and_eq_true_iff.mp below).2
    split at found
    next => exact Option.some.inj found ▸ bne_iff_ne.mp some_
    next => exact Option.some.inj found ▸ Nat.succ_ne_zero _
  next below _ => exact Option.some.inj found ▸ bne_iff_ne.mp (Bool.and_eq_true_iff.mp below).2
  next => exact Option.some.inj found ▸ Nat.succ_ne_zero _
  next => contradiction

theorem exists_firstGrid {tries : Nat} (found : ∃ k < tries, ∃ n, onGrid tie b (power - k) = some n) :
    ∃ n last, firstGrid tie b power tries = some (n, last) := by
  induction tries generalizing power with
  | zero =>
    obtain ⟨k, never, -⟩ := found
    exact absurd never k.not_lt_zero
  | succ tries ih =>
    unfold firstGrid
    cases here : onGrid tie b power with
    | some n => exact ⟨n, power, rfl⟩
    | none =>
      obtain ⟨k, within, n, later⟩ := found
      cases k with
      | zero => simp [here] at later
      | succ k =>
        refine ih ⟨k, Nat.lt_of_succ_lt_succ within, n, ?_⟩
        rwa [Nat.cast_succ, Int.add_comm, ← Int.sub_sub] at later

theorem firstGrid_ne_zero {tries n : Nat} {last : Int} (found : firstGrid tie b power tries = some (n, last)) :
    n ≠ 0 := by
  induction tries generalizing power with
  | zero => cases found
  | succ tries ih =>
    unfold firstGrid at found
    split at found
    next here =>
      cases found
      exact onGrid_ne_zero here
    next => exact ih found

/-- The power that was raised is the one it started from or at most the fraction. -/
theorem raisePower_le {r : Ratio} (den : 0 < r.den) (power : Int) (tries : Nat) :
    raisePower r power tries = power ∨ (10 : ℚ) ^ raisePower r power tries ≤ r.toRat := by
  induction tries generalizing power with
  | zero => exact Or.inl rfl
  | succ tries ih =>
    unfold raisePower
    split
    next fits =>
      rw [Ratio.le_iff (Ratio.scale_den_pos Nat.one_pos power) den, Ratio.toRat_scale, Ratio.toRat, Nat.cast_one,
        div_one, Nat.cast_ofNat, ← zpow_one_add₀ (by decide), Int.add_comm] at fits
      rcases ih (power + 1) with same | raised
      · rw [same]
        exact Or.inr fits
      · exact Or.inr raised
    next => exact Or.inl rfl

end

/-- Powers of two bases are compared by one comparison of them. -/
theorem pow_lt_pow_of_le {a b p q k j : Nat} (base : 1 < b) (le : a ^ p ≤ b ^ q) (less : q * k < p * j) :
    a ^ k < b ^ j := by
  refine lt_of_pow_lt_pow_left₀ p (Nat.zero_le _) ?_
  calc
    (a ^ k) ^ p = (a ^ p) ^ k := Nat.pow_right_comm _ _ _
    _ ≤ (b ^ q) ^ k := Nat.pow_le_pow_left le k
    _ = b ^ (q * k) := (pow_mul _ _ _).symm
    _ < b ^ (p * j) := Nat.pow_lt_pow_right base less
    _ = (b ^ j) ^ p := by rw [Nat.mul_comm, pow_mul]

/-- Two fractions near the logarithm of two compare powers of ten with powers of two. -/
theorem ten_zpow_lt_two_zpow {k j : Int} (up : 10 * k < 3 * j) (down : 93 * k < 28 * j) : (10 : ℚ) ^ k < 2 ^ j := by
  rcases Int.lt_or_le k 0 with negative | positive
  · rcases Int.lt_or_le j 0 with falling | rising
    · obtain ⟨n, rfl⟩ : ∃ n : Nat, k = -n := ⟨(-k).toNat, by omega⟩
      obtain ⟨m, rfl⟩ : ∃ m : Nat, j = -m := ⟨(-j).toNat, by omega⟩
      rw [zpow_neg, zpow_neg, zpow_natCast, zpow_natCast, inv_lt_inv₀ (by positivity) (by positivity)]
      exact_mod_cast pow_lt_pow_of_le (p := 93) (q := 28) (by decide) (by decide) (by omega)
    · exact (zpow_lt_one_of_neg₀ (by norm_num) negative).trans_le (one_le_zpow₀ (by norm_num) rising)
  · obtain ⟨n, rfl⟩ := Int.eq_ofNat_of_zero_le positive
    obtain ⟨m, rfl⟩ := Int.eq_ofNat_of_zero_le (show 0 ≤ j by omega)
    rw [zpow_natCast, zpow_natCast]
    exact_mod_cast pow_lt_pow_of_le (p := 3) (q := 10) (by decide) (by decide) (by omega)

/-- The numbers that a double has as its mantissa and exponent. -/
structure Binary.InRange (b : Binary) : Prop where
  mantissa : b.mantissa < 2 ^ 53
  least : -1074 ≤ b.exponent
  most : b.exponent ≤ 972

namespace Binary.InRange

variable {b : Binary}

theorem log2_lt (range : b.InRange) : Nat.log2 b.mantissa < 53 := by
  rcases Nat.eq_zero_or_pos b.mantissa with zero | pos
  · rw [zero]
    decide
  · exact (Nat.log2_lt (Nat.ne_of_gt pos)).mpr range.mantissa

/-- Twenty digits behind the first are more than the number needs. -/
theorem fine (range : b.InRange) : (10 : ℚ) ^ (leadingPower b - 19) < 2 ^ (b.exponent - 1) := by
  have unit : (0 : ℚ) < 2 ^ (b.exponent - 1) := zpow_pos (by decide) _
  have bits := range.log2_lt
  obtain ⟨mantissa, least, most⟩ := range
  rcases raisePower_le b.value_den_pos ((b.exponent + (Nat.log2 b.mantissa : Int)) * 30103 / 100000 - 1) 4 with
    start | raised
  · rw [leadingPower, start]
    exact ten_zpow_lt_two_zpow (by omega) (by omega)
  · have small : (b.mantissa : ℚ) < 2 ^ 53 := by exact_mod_cast mantissa
    rw [zpow_sub₀ (by decide), div_lt_iff₀ (by positivity)]
    calc
      (10 : ℚ) ^ leadingPower b ≤ b.value.toRat := raised
      _ = b.mantissa * (2 * 2 ^ (b.exponent - 1)) := by rw [b.toRat_value, two_zpow b.exponent]
      _ < 2 ^ 53 * (2 * 2 ^ (b.exponent - 1)) := by gcongr
      _ = 2 ^ (b.exponent - 1) * 2 ^ 54 := by ring
      _ ≤ 2 ^ (b.exponent - 1) * 10 ^ (19 : Int) := by gcongr; norm_num

theorem exists_firstGrid (range : b.InRange) (tie : Tie) :
    ∃ n last, firstGrid tie b (leadingPower b) 20 = some (n, last) :=
  Decimal.exists_firstGrid ⟨19, by decide, exists_onGrid (standsFor_next range.fine)⟩

end Binary.InRange

/-- Without the zeros at their end, the digits of a number that is not zero keep the first. -/
theorem shortest_reduced {b : Binary} (range : b.InRange) (tie : Tie) (negative : Bool) :
    (shortest tie negative b).Reduced := by
  obtain ⟨n, power, found⟩ := range.exists_firstGrid tie
  have lead := head?_toString (Nat.pos_of_ne_zero (firstGrid_ne_zero found))
  obtain ⟨c, cs, digits⟩ := List.exists_cons_of_ne_nil (toString_toList_ne_nil n)
  rw [digits] at lead
  have kept : (shortest tie negative b).digits = (c :: cs).rdropWhile (· == '0') := by
    rw [← digits]
    simp only [shortest, found, List.rdropWhile]
  have some_ : (c :: cs).rdropWhile (· == '0') ≠ [] := by
    intro none
    have zero := List.rdropWhile_eq_nil_iff.mp none c List.mem_cons_self
    exact lead (congrArg some (beq_iff_eq.mp zero))
  have front := List.rdropWhile_prefix (· == '0') (c :: cs)
  have last := List.rdropWhile_last_not (· == '0') (c :: cs) some_
  rw [← kept] at some_ front
  refine ⟨⟨?_, some_, ?_⟩, ?_⟩
  · intro d member
    exact isDigit_of_mem_toString (digits ▸ front.subset member)
  · rwa [List.head?_eq_some_head some_, front.head some_]
  · rw [kept, List.getLast?_eq_some_getLast (kept ▸ some_)]
    intro zero
    exact last (beq_iff_eq.mpr (Option.some.inj zero))

theorem binaryOfBits_inRange {bits : Nat} : (binaryOfBits bits).InRange := by
  have fraction : bits % fractionCount < 2 ^ 52 := Nat.mod_lt _ (by decide)
  have exponent : bits / fractionCount % exponentCount < 2 ^ 11 := Nat.mod_lt _ (by decide)
  unfold binaryOfBits
  generalize bits % fractionCount = f at fraction
  generalize bits / fractionCount % exponentCount = e at exponent
  dsimp only
  split
  next => constructor <;> dsimp only <;> omega
  next => constructor <;> dsimp only [fractionCount] <;> omega

/-- The digits of a double have no zero at either end. -/
theorem ofFloat_reduced (tie : Tie) (x : Float) : (ofFloat tie x).Reduced :=
  shortest_reduced binaryOfBits_inRange tie _

end Stencil.Decimal
