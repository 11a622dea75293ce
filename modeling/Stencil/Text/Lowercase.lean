import Stencil.Text.CaseTable
import Stencil.Text.Cased

/-! Lower case for every script, with the form of sigma that ends a word. -/

set_option autoImplicit false

namespace Stencil.Text

/-- Whether a run lists the code point as one of its capital letters. -/
def CaseRun.covers (run : CaseRun) (n : Nat) : Bool :=
  run.first ≤ n && n ≤ run.last && (n - run.first) % run.step == 0

/-- The lower-case form of one character, whatever stands around it. -/
def lowerChar (c : Char) : List Char :=
  if c.toNat < 128 then [c.toLower]
  else if c.toNat = 0x130 then ['i', Char.ofNat 0x307]
  else match caseRuns.find? (·.covers c.toNat) with
    | some run => [Char.ofNat (c.toNat + run.shift).toNat]
    | none => [c]

/-- Whether the first character that is not passed over has a case. -/
def meetsCased (cs : List Char) : Bool :=
  match cs.dropWhile caseIgnorableChars.contains with
  | [] => false
  | c :: _ => casedChars.contains c

/-- Lower case of the text after `before`, which is given in reverse. A capital sigma after a letter
and before none is the sigma that ends a word. -/
def lowerAfter (before : List Char) : List Char → List Char
  | [] => []
  | c :: cs =>
    let lowered :=
      if c.toNat = 0x3A3 then
        [Char.ofNat (if meetsCased before && !meetsCased cs then 0x3C2 else 0x3C3)]
      else lowerChar c
    lowered ++ lowerAfter (c :: before) cs

def lower (text : String) : String := String.ofList (lowerAfter [] text.toList)

end Stencil.Text
