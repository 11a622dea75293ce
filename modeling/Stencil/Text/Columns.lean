import Stencil.Text.ColumnTable

/-! How many columns of a terminal a character fills. -/

set_option autoImplicit false

namespace Stencil.Text

/-- The columns that a character fills; control characters fill none. -/
def columns (c : Char) : Nat :=
  let n := c.toNat
  if n < 0x20 || (0x7F ≤ n && n < 0xA0) then 0
  else if n < 0x7F then 1
  else if n = 0x17D8 then 3
  else if zeroColumnChars.contains c then 0
  else if twoColumnChars.contains c then 2
  else 1

/-- The characters of a text with the columns each fills from the left edge on: a tab reaches the
next multiple of `tabWidth`, and an escape sequence up to its `m` fills none. -/
def columnsFrom (tabWidth : Nat) : (column : Nat) → (escaped : Bool) → List Char → List (Char × Nat)
  | _, _, [] => []
  | column, true, c :: cs => (c, 0) :: columnsFrom tabWidth column (c != 'm') cs
  | column, false, c :: cs =>
    if c = '\x1b' then (c, 0) :: columnsFrom tabWidth column true cs
    else
      let width := if c = '\t' then tabWidth - column % tabWidth else columns c
      (c, width) :: columnsFrom tabWidth (column + width) false cs

def lineColumns (tabWidth : Nat) (cs : List Char) : Nat :=
  (columnsFrom tabWidth 0 false cs).foldl (fun total shown => total + shown.2) 0

/-- The text as it is shown: every tab is spread into blanks. -/
def expandTabs (tabWidth : Nat) (cs : List Char) : List Char :=
  (columnsFrom tabWidth 0 false cs).flatMap fun (c, width) =>
    if c = '\t' then List.replicate width ' ' else [c]

end Stencil.Text
