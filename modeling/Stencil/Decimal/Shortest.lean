/-! The shortest decimal of a binary floating-point number.

A number `mantissa · 2 ^ exponent` stands for all reals nearer to it than to its neighbours. Among the
decimals of those reals, `shortest` finds one with the fewest digits and, of these, the nearest; a `Tie` says
which of two as near. -/

set_option autoImplicit false

namespace Stencil.Decimal

/-- A decimal number: its digits, a point after the first of them, times a power of ten. -/
structure Scientific where
  negative : Bool
  digits : List Char
  exponent : Int
  deriving DecidableEq, Repr

/-- A positive binary number and the gap to its neighbours: below a power of two it is half as wide. -/
structure Binary where
  mantissa : Nat
  exponent : Int
  narrowBelow : Bool

/-- Which of two equally near multiples of a power of ten is taken: the even one or the greater. -/
inductive Tie where
  | toEven
  | up
  deriving DecidableEq, Repr

structure Ratio where
  num : Nat
  den : Nat

namespace Binary

/-- A multiple of a quarter of the unit in the last place. -/
def quarters (count : Nat) (b : Binary) : Ratio :=
  if 0 ≤ b.exponent then ⟨count * Nat.pow 2 b.exponent.toNat, 4⟩ else ⟨count, 4 * Nat.pow 2 (-b.exponent).toNat⟩

def value (b : Binary) : Ratio := b.quarters (4 * b.mantissa)

/-- The least real that stands for the number, itself included if the mantissa is even. -/
def lower (b : Binary) : Ratio := b.quarters (4 * b.mantissa - if b.narrowBelow then 1 else 2)

/-- The greatest real that stands for the number, itself included if the mantissa is even. -/
def upper (b : Binary) : Ratio := b.quarters (4 * b.mantissa + 2)

end Binary

namespace Ratio

def le (a b : Ratio) : Bool := a.num * b.den ≤ b.num * a.den

def lt (a b : Ratio) : Bool := a.num * b.den < b.num * a.den

def scale (a : Ratio) (power : Int) : Ratio :=
  if 0 ≤ power then ⟨a.num * Nat.pow 10 power.toNat, a.den⟩ else ⟨a.num, a.den * Nat.pow 10 (-power).toNat⟩

/-- The distance to a natural number, over the same denominator. -/
def distance (a : Ratio) (n : Nat) : Nat := (a.num - n * a.den) + (n * a.den - a.num)

end Ratio

/-- Whether `n` times a power of ten stands for the number. -/
def standsFor (b : Binary) (power : Int) (n : Nat) : Bool :=
  let r := Ratio.scale ⟨n, 1⟩ power
  if b.mantissa % 2 = 0 then b.lower.le r && r.le b.upper else b.lower.lt r && r.lt b.upper

/-- Whether a tie between a natural number and the next one goes to the lower. -/
def Tie.keepsLower (tie : Tie) (n : Nat) : Bool :=
  match tie with
  | toEven => n % 2 == 0
  | up => false

/-- On the grid of multiples of a power of ten, the neighbour of the number that stands for it;
of two the nearer, and of two as near the one that `tie` says. -/
def onGrid (tie : Tie) (b : Binary) (power : Int) : Option Nat :=
  let scaled := b.value.scale (-power)
  let below := scaled.num / scaled.den
  match standsFor b power below && below != 0, standsFor b power (below + 1) with
  | true, true =>
    let toBelow := scaled.distance below
    let toAbove := scaled.distance (below + 1)
    if toBelow < toAbove || (toBelow == toAbove && tie.keepsLower below) then some below else some (below + 1)
  | true, false => some below
  | false, true => some (below + 1)
  | false, false => none

def firstGrid (tie : Tie) (b : Binary) (power : Int) : Nat → Option (Nat × Int)
  | 0 => none
  | tries + 1 =>
    match onGrid tie b power with
    | some n => some (n, power)
    | none => firstGrid tie b (power - 1) tries

/-- The power of ten at or below a fraction, from a start that is not above it. -/
def raisePower (r : Ratio) (power : Int) : Nat → Int
  | 0 => power
  | tries + 1 => if (Ratio.scale ⟨10, 1⟩ power).le r then raisePower r (power + 1) tries else power

/-- The greatest power of ten that is at most the number. -/
def leadingPower (b : Binary) : Int :=
  let bits : Int := b.exponent + (Nat.log2 b.mantissa : Int)
  raisePower b.value (bits * 30103 / 100000 - 1) 4

/-- The shortest digits that stand for a positive number, with the power of ten of the first. -/
def shortest (tie : Tie) (negative : Bool) (b : Binary) : Scientific :=
  match firstGrid tie b (leadingPower b) 20 with
  | none => ⟨negative, ['0'], 0⟩
  | some (n, power) =>
    let digits := (toString n).toList
    let kept := (digits.reverse.dropWhile (· == '0')).reverse
    ⟨negative, kept, power + digits.length - 1⟩

end Stencil.Decimal
