import Stencil.Text.Hexadecimal
import Stencil.Text.Printable

/-! Quoted listings of text.

`quote` picks the quote mark that needs no escape if one of the two does; `quoteDouble` always
writes double quotes and names every unprintable character by its code point. -/

set_option autoImplicit false

namespace Stencil.Text

/-- The quote mark around a text: double only if that spares an escape. -/
def quoteMark (cs : List Char) : Char :=
  if cs.contains '\'' && !cs.contains '"' then '"' else '\''

/-- The listed form of one character between the given quote marks. -/
def quoteChar (mark c : Char) : List Char :=
  if c = '\\' then ['\\', '\\']
  else if c = '\n' then ['\\', 'n']
  else if c = '\r' then ['\\', 'r']
  else if c = '\t' then ['\\', 't']
  else if c = mark then ['\\', c]
  else if c.toNat < 0x20 ∨ c.toNat = 0x7F then
    ['\\', 'x', hexDigit (c.toNat / 16), hexDigit (c.toNat % 16)]
  else [c]

def quoteChars (cs : List Char) : List Char :=
  let mark := quoteMark cs
  mark :: cs.flatMap (quoteChar mark) ++ [mark]

def quote (text : String) : String := String.ofList (quoteChars text.toList)

/-- The form of one character in a double-quoted listing. -/
def quoteDoubleChar (c : Char) : List Char :=
  if c = '\x00' then ['\\', '0']
  else if c = '\t' then ['\\', 't']
  else if c = '\r' then ['\\', 'r']
  else if c = '\n' then ['\\', 'n']
  else if c = '\\' then ['\\', '\\']
  else if c = '"' then ['\\', '"']
  else if c = ' ' then [c]
  else if graphemeExtenders.contains c || unprintableChars.contains c then
    ['\\', 'u', '\x7b'] ++ hexDigits c.toNat ++ ['\x7d']
  else [c]

/-- A double-quoted listing in which every unprintable character is named by its code point. -/
def quoteDouble (text : String) : String :=
  String.ofList ('"' :: text.toList.flatMap quoteDoubleChar ++ ['"'])

end Stencil.Text
