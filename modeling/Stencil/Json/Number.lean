import Stencil.Decimal.Reader
import Stencil.Json.Basic

/-! The numbers of JSON documents.

A number without a point or exponent is whole if it fits. All others are computed from the digits that
fit into 64 bits, times or divided by a power of ten in one rounded step. -/

set_option autoImplicit false

namespace Stencil.Json

open Decimal (ofDigits)
open Text (isDigit)

/-- The largest number that the digits of a double are collected in. -/
def maxDigits : Nat := UInt64.size - 1

/-- Collects digits as long as the number fits; the digits that do not fit. -/
def collect (value : Nat) : List Char → Nat × List Char
  | [] => (value, [])
  | c :: cs =>
    let next := value * 10 + (c.toNat - 48)
    if maxDigits < next then (value, c :: cs) else collect next cs

/-- The largest power of ten that is finite. -/
def largestPower : Nat := 308

/-- A double times or divided by a power of ten, in steps of powers that are finite; none if it would be infinite. -/
def scale (x : Float) (exponent : Int) : Option Float :=
  if 0 ≤ exponent then
    if exponent ≤ largestPower then
      let scaled := x * Decimal.nearestFloat 1 exponent
      if scaled.isInf then none else some scaled
    else if x == 0.0 then some x else none
  else if -(largestPower : Int) ≤ exponent then some (x / Decimal.nearestFloat 1 (-exponent))
  else if x == 0.0 then some x
  else scale (x / Decimal.nearestFloat 1 largestPower) (exponent + largestPower)
termination_by (-exponent).toNat
decreasing_by
  simp only [largestPower] at *
  omega

structure NumberText where
  negative : Bool
  whole : List Char
  fraction : Option (List Char)
  exponent : Option (Bool × List Char)

/-- The double of a whole and a fractional part and an exponent. -/
def floatOf (whole fraction : List Char) (exponent : Int) : Option Float :=
  let (digits, dropped) := collect 0 whole
  if dropped.isEmpty then
    let (digits, unread) := collect digits fraction
    scale (Decimal.nearestFloat digits 0) (exponent - (fraction.length - unread.length : Nat))
  else
    let (digits, unread) := collect digits fraction
    scale (Decimal.nearestFloat digits 0) (exponent + dropped.length - (fraction.length - unread.length : Nat))

/-- The largest exponent that is read as it stands. -/
def maxExponent : Nat := 2147483647

/-- The number of a text, none if it is out of range. -/
def NumberText.number? (text : NumberText) : Option Number :=
  let sign (x : Float) : Number := .float (if text.negative then -x else x)
  match text.fraction, text.exponent with
  | none, none =>
    let n := ofDigits text.whole
    if maxDigits < n then (floatOf text.whole [] 0).map sign
    else if !text.negative then some (.integer n)
    else if n = 0 ∨ UInt64.size < 2 * n then some (sign (Decimal.nearestFloat n 0))
    else some (.integer (-n))
  | fraction, exponent =>
    let fraction := fraction.getD []
    let (negative, digits) := exponent.getD (false, [])
    if maxExponent < ofDigits digits then
      let zero := (collect 0 (text.whole ++ fraction)).1 == 0
      if zero || negative then some (sign 0.0) else none
    else
      let n : Int := ofDigits digits
      (floatOf text.whole fraction (if negative then -n else n)).map sign

/-- Digits at the start of a text, at least one, and what follows. -/
def takeDigits? (cs : List Char) : Option (List Char × List Char) :=
  match cs.takeWhile isDigit with
  | [] => none
  | digits => some (digits, cs.dropWhile isDigit)

/-- The whole part: a lone zero, or digits that do not start with zero. -/
def takeWhole? (cs : List Char) : Option (List Char × List Char) :=
  (takeDigits? cs).filter fun (digits, _) => digits.head? != some '0' || digits.length == 1

def takeFraction? : List Char → Option (Option (List Char) × List Char)
  | '.' :: cs => (takeDigits? cs).map fun (digits, rest) => (some digits, rest)
  | cs => some (none, cs)

/-- The exponent, if there is a mark for one: whether it is negative, and its digits. -/
def takeExponent? : List Char → Option (Option (Bool × List Char) × List Char)
  | [] => some (none, [])
  | c :: cs =>
    if c = 'e' ∨ c = 'E' then
      let (negative, cs) := match cs with
        | '+' :: rest => (false, rest)
        | '-' :: rest => (true, rest)
        | _ => (false, cs)
      (takeDigits? cs).map fun (digits, rest) => (some (negative, digits), rest)
    else some (none, c :: cs)

def readNumber? (cs : List Char) : Option (Number × List Char) := do
  let (negative, cs) := match cs with
    | '-' :: rest => (true, rest)
    | _ => (false, cs)
  let (whole, cs) ← takeWhole? cs
  let (fraction, cs) ← takeFraction? cs
  let (exponent, cs) ← takeExponent? cs
  let number ← NumberText.number? ⟨negative, whole, fraction, exponent⟩
  return (number, cs)

end Stencil.Json
