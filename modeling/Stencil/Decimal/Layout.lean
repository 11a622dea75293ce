import Stencil.Decimal.Shortest

/-! The written forms of decimals and floating-point numbers. -/

set_option autoImplicit false

namespace Stencil.Decimal

/-- The text of a natural number, at least two digits. -/
def twoDigits (n : Nat) : List Char :=
  if n < 10 then '0' :: (toString n).toList else (toString n).toList

def signText (negative : Bool) : List Char := if negative then ['-'] else []

/-- Digits with the point after the first `point` of them, zeros filled in and at least one digit on each side. -/
def fixedDigits (digits : List Char) (point : Nat) : List Char :=
  if digits.length ≤ point then digits ++ List.replicate (point - digits.length) '0' ++ ['.', '0']
  else digits.take point ++ '.' :: digits.drop point

/-- Digits behind the point, after as many zeros as given. -/
def fractionDigits (digits : List Char) (zeros : Nat) : List Char :=
  ['0', '.'] ++ List.replicate zeros '0' ++ digits

/-- The first digit, and the others behind a point if there are any. -/
def leadingDigit : List Char → List Char
  | d :: e :: rest => d :: '.' :: e :: rest
  | digits => digits

namespace Scientific

/-- The digits with the point in its place, whatever the exponent. -/
def fixed (s : Scientific) : List Char :=
  if 0 ≤ s.exponent then fixedDigits s.digits (s.exponent.toNat + 1)
  else fractionDigits s.digits ((-s.exponent).toNat - 1)

/-- The digits with an exponent behind them, which has a sign and is written as `magnitude` says. -/
def withExponent (magnitude : Nat → List Char) (s : Scientific) : List Char :=
  leadingDigit s.digits ++ ['e', if s.exponent < 0 then '-' else '+'] ++ magnitude s.exponent.natAbs

/-- The form of a number in output: positional from `0.0001` up to below `10 ^ 16`, and otherwise with an
exponent of at least two digits. -/
def text (s : Scientific) : List Char :=
  signText s.negative ++
    if -4 ≤ s.exponent ∧ s.exponent < 16 then s.fixed else s.withExponent twoDigits

/-- The form of a number in a message about settings: positional from `0.00001` up to below `10 ^ 16`, and
otherwise with an exponent of as few digits as it needs. -/
def terse (s : Scientific) : List Char :=
  signText s.negative ++
    if -5 ≤ s.exponent ∧ s.exponent < 16 then s.fixed else s.withExponent fun n => (toString n).toList

end Scientific

/-- The number of fractions of a double that share an exponent. -/
def fractionCount : Nat := 0x10000000000000

def exponentCount : Nat := 0x800

/-- The positive binary number of a double that is neither zero, infinite nor not a number. -/
def binaryOfBits (bits : Nat) : Binary :=
  let fraction : Nat := bits % fractionCount
  let exponent : Nat := bits / fractionCount % exponentCount
  if exponent = 0 then ⟨fraction, -1074, false⟩
  else ⟨fractionCount + fraction, (exponent : Int) - 1075, fraction = 0 ∧ 1 < exponent⟩

def signBit (x : Float) : Bool := fractionCount * exponentCount ≤ x.toBits.toNat

/-- The shortest decimal of a double that is neither zero, infinite nor not a number. -/
def ofFloat (tie : Tie) (x : Float) : Scientific := shortest tie (signBit x) (binaryOfBits x.toBits.toNat)

/-- The text of a double in a given form of finite non-zero numbers. -/
def floatWith (tie : Tie) (form : Scientific → List Char) (x : Float) : List Char :=
  if x.isNaN then ['n', 'a', 'n']
  else if x.isInf then signText (signBit x) ++ ['i', 'n', 'f']
  else if x == 0.0 then signText (signBit x) ++ ['0', '.', '0']
  else form (ofFloat tie x)

def floatChars (x : Float) : List Char := floatWith .up Scientific.text x

def floatText (x : Float) : String := String.ofList (floatChars x)

/-- The text of a double in a message about settings. -/
def terseText (x : Float) : String := String.ofList (floatWith .toEven Scientific.terse x)

/-- The text of a double without an exponent, and without a point if it is whole. -/
def positionalText (x : Float) : String :=
  let cs := floatWith .up (fun s => signText s.negative ++ s.fixed) x
  String.ofList (if cs.getLast? == some '0' && cs.dropLast.getLast? == some '.' then cs.take (cs.length - 2) else cs)

end Stencil.Decimal
