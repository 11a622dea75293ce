/-! Hexadecimal digits. -/

set_option autoImplicit false

namespace Stencil.Text

def hexDigit (n : Nat) : Char := Char.ofNat (if n < 10 then 48 + n else 87 + n)

/-- The hexadecimal digits of a number, none for zero. -/
def hexDigits (n : Nat) : List Char :=
  if _h : n = 0 then [] else hexDigits (n / 16) ++ [hexDigit (n % 16)]
termination_by n
decreasing_by omega

def hexValue? (c : Char) : Option Nat :=
  if '0' ≤ c ∧ c ≤ '9' then some (c.toNat - 48)
  else if 'a' ≤ c ∧ c ≤ 'f' then some (c.toNat - 87)
  else if 'A' ≤ c ∧ c ≤ 'F' then some (c.toNat - 55)
  else none

/-- The number of hexadecimal digits, after the digits read before. -/
def ofHexDigits? (value : Nat) : List Char → Option Nat
  | [] => some value
  | c :: cs => (hexValue? c).bind fun digit => ofHexDigits? (value * 16 + digit) cs

end Stencil.Text
