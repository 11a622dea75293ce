import Stencil.Text.Hexadecimal
import Stencil.Toml.Instant

/-! Numbers, truth values, dates and times of TOML documents, each a word up to the next blank or mark.

Infinite values and values that are not a number have no place in plain data and become null there. -/

set_option autoImplicit false

namespace Stencil.Toml

open Decimal (ofDigits splitSign)
open Text (isDigit splitFirst splitOn)

/-- Digits with single underscores between them, taken without the underscores. -/
def ungroup? (isDigit : Char → Bool) (cs : List Char) : Option (List Char) :=
  let groups := splitOn '_' cs
  if groups.all fun group => !group.isEmpty && group.all isDigit then some groups.flatten else none

/-- The digits of a decimal number: they start with zero only if that is all of them. -/
def decimalDigits? (cs : List Char) : Option (List Char) :=
  (ungroup? isDigit cs).filter fun digits => digits.length == 1 || digits.head? != some '0'

/-- A whole number within the signed 64-bit range. -/
def inRange? (n : Int) : Option Json :=
  if Int64.minValue.toInt ≤ n ∧ n ≤ Int64.maxValue.toInt then some (.number (.integer n)) else none

def isDigitOf (base : Nat) (c : Char) : Bool := (Text.hexValue? c).any (· < base)

def readBased? (base : Nat) (cs : List Char) : Option Json :=
  (ungroup? (isDigitOf base) cs).bind fun digits =>
    inRange? (digits.foldl (fun n c => n * base + (Text.hexValue? c).getD 0) 0)

def readDecimal? (negative : Bool) (cs : List Char) : Option Json :=
  (decimalDigits? cs).bind fun digits =>
    inRange? (if negative then -(ofDigits digits : Int) else ofDigits digits)

def splitExponent (cs : List Char) : List Char × Option (List Char) :=
  let isMark (c : Char) := c == 'e' || c == 'E'
  (cs.takeWhile (!isMark ·), (cs.dropWhile (!isMark ·)).tail?)

/-- The exponent behind its mark; zero for none. -/
def readExponent? : Option (List Char) → Option Int
  | none => some 0
  | some cs =>
    let (negative, digits) := splitSign cs
    (ungroup? isDigit digits).map fun digits => if negative then -(ofDigits digits : Int) else ofDigits digits

/-- A number with a point or an exponent; none if it is too large, while one that is too small counts as null. -/
def readFraction? (negative : Bool) (cs : List Char) : Option Json := do
  let (mantissa, exponent) := splitExponent cs
  let (whole, fraction) := (splitFirst '.' mantissa).elim (mantissa, none) fun (whole, rest) => (whole, some rest)
  let whole ← decimalDigits? whole
  let fraction ← fraction.elim (some []) (ungroup? isDigit)
  let scale ← readExponent? exponent
  let size := Decimal.nearestFloat (ofDigits (whole ++ fraction)) (scale - fraction.length)
  if size.isInf then if negative then return .null else none
  else return .number (.float (if negative then -size else size))

def readNumber? (cs : List Char) : Option Json :=
  match cs with
  | '0' :: 'x' :: digits => readBased? 16 digits
  | '0' :: 'o' :: digits => readBased? 8 digits
  | '0' :: 'b' :: digits => readBased? 2 digits
  | _ =>
    let (negative, rest) := splitSign cs
    if rest = ['i', 'n', 'f'] ∨ rest = ['n', 'a', 'n'] then some .null
    else if rest.any fun c => c == '.' || c == 'e' || c == 'E' then readFraction? negative rest
    else readDecimal? negative rest

def endsWord (c : Char) : Bool := " \t\n\r#,]\x7d".toList.contains c

/-- Reads a truth value, a number, a date or a time. A date and a time may have a blank between them. -/
def readWord? (cs : List Char) : Option (Json × List Char) :=
  let word := cs.takeWhile (!endsWord ·)
  let rest := cs.dropWhile (!endsWord ·)
  if word = ['t', 'r', 'u', 'e'] then some (.bool true, rest)
  else if word = ['f', 'a', 'l', 's', 'e'] then some (.bool false, rest)
  else if isDate word then
    match rest with
    | ' ' :: after =>
      let time := after.takeWhile (!endsWord ·)
      if time.isEmpty then some (instant word, rest)
      else (readInstant? .word (word ++ ' ' :: time)).map (·, after.dropWhile (!endsWord ·))
    | _ => some (instant word, rest)
  else ((readInstant? .word word).or (readNumber? word)).map (·, rest)

end Stencil.Toml
