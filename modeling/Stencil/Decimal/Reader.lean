import Stencil.Text.Class

/-! Reading decimal numbers: whole numbers of 64 bits and the nearest floating-point number of a decimal. -/

set_option autoImplicit false

namespace Stencil.Decimal

open Text (isDigit)

/-- The number that a list of digits stands for, after the digits read before. -/
def digitsFrom (value : Nat) : List Char → Nat
  | [] => value
  | c :: cs => digitsFrom (value * 10 + (c.toNat - 48)) cs

def ofDigits (cs : List Char) : Nat := digitsFrom 0 cs

/-- Splits off a sign; without one a number is positive. -/
def splitSign : List Char → Bool × List Char
  | '-' :: cs => (true, cs)
  | '+' :: cs => (false, cs)
  | cs => (false, cs)

/-- A whole number: one digit or more after an optional sign. -/
def readInt? (cs : List Char) : Option Int :=
  let (negative, digits) := splitSign cs
  if digits.isEmpty || !digits.all isDigit then none
  else some (if negative then -(ofDigits digits : Int) else ofDigits digits)

/-- A whole number within the 64-bit range. -/
def readInt64? (cs : List Char) : Option Int64 :=
  (readInt? cs).bind fun n =>
    if Int64.minValue.toInt ≤ n ∧ n ≤ Int64.maxValue.toInt then some (Int64.ofInt n) else none

def readNat? (cs : List Char) : Option Nat :=
  match cs with
  | '-' :: _ => none
  | _ => (readInt? cs).map Int.toNat

/-- A decimal number `mantissa · 10 ^ exponent`, or one of the values that are not finite. -/
inductive Reading where
  | number (negative : Bool) (mantissa : Nat) (exponent : Int)
  | infinity (negative : Bool)
  | notANumber (negative : Bool)
  deriving DecidableEq, Repr

/-- The exponent part: nothing, or the mark and a whole number. -/
def readExponent? : List Char → Option Int
  | [] => some 0
  | c :: cs => if c = 'e' ∨ c = 'E' then readInt? cs else none

/-- An unsigned decimal: digits with at most one point among or around them, at least one digit, and an
optional exponent. -/
def readUnsigned? (negative : Bool) (cs : List Char) : Option Reading :=
  let whole := cs.takeWhile isDigit
  let rest := cs.dropWhile isDigit
  let (fraction, rest) := match rest with
    | '.' :: tail => (tail.takeWhile isDigit, tail.dropWhile isDigit)
    | _ => ([], rest)
  if whole.isEmpty && fraction.isEmpty then none
  else (readExponent? rest).map fun e => .number negative (ofDigits (whole ++ fraction)) (e - fraction.length)

/-- A decimal with an optional sign, or `inf`, `infinity` or `nan` in any case. -/
def read? (cs : List Char) : Option Reading :=
  let (negative, rest) := splitSign cs
  let word := rest.map Char.toLower
  if word = ['i', 'n', 'f'] ∨ word = ['i', 'n', 'f', 'i', 'n', 'i', 't', 'y'] then some (.infinity negative)
  else if word = ['n', 'a', 'n'] then some (.notANumber negative)
  else readUnsigned? negative rest

/-- The double nearest to `mantissa · 10 ^ exponent`. Exponents that leave the range of doubles are
answered without computing the power. -/
def nearestFloat (mantissa : Nat) (exponent : Int) : Float :=
  let size : Int := (toString mantissa).length + exponent
  if mantissa = 0 ∨ size < -330 then 0.0
  else if 310 < size then 1.0 / 0.0
  else if 0 ≤ exponent then Float.ofScientific mantissa false exponent.toNat
  else Float.ofScientific mantissa true (-exponent).toNat

/-- The single-precision number nearest to `mantissa · 10 ^ exponent`. -/
def nearestFloat32 (mantissa : Nat) (exponent : Int) : Float32 :=
  let size : Int := (toString mantissa).length + exponent
  if mantissa = 0 ∨ size < -60 then 0.0
  else if 40 < size then 1.0 / 0.0
  else if 0 ≤ exponent then Float32.ofScientific mantissa false exponent.toNat
  else Float32.ofScientific mantissa true (-exponent).toNat

def Reading.toFloat : Reading → Float
  | .number negative m e => if negative then -(nearestFloat m e) else nearestFloat m e
  | .infinity negative => if negative then -1.0 / 0.0 else 1.0 / 0.0
  | .notANumber _ => 0.0 / 0.0

def Reading.toFloat32 : Reading → Float32
  | .number negative m e => if negative then -(nearestFloat32 m e) else nearestFloat32 m e
  | .infinity negative => if negative then -1.0 / 0.0 else 1.0 / 0.0
  | .notANumber _ => 0.0 / 0.0

/-- The double nearest to a decimal text. -/
def readFloat? (cs : List Char) : Option Float := (read? cs).map Reading.toFloat

end Stencil.Decimal
