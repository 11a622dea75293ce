import Stencil.Text.LineTable

/-! Where a line of text may be broken, by the rules of UAX #14.

The text is first cut into units, a character and the marks on it; `breaksAfter` pairs every character with
whether the line may end behind it. -/

set_option autoImplicit false

namespace Stencil.Text

def lineClass (c : Char) : LineClass :=
  let n := c.toNat
  if 0xAC00 ≤ n && n ≤ 0xD7A3 then
    if (n - 0xAC00) % 28 == 0 then .hangulLV else .hangulLVT
  else lineRunClasses.getD (rank lineRunStarts n - 1) .alphabetic

namespace LineClass

def isWord : LineClass → Bool
  | alphabetic | dottedCircle | hebrewLetter => true
  | _ => false

def isOpening : LineClass → Bool
  | openPunct | wideOpen => true
  | _ => false

def isClosing : LineClass → Bool
  | closePunct | closeParen | wideClose => true
  | _ => false

def isQuotation : LineClass → Bool
  | quotation | openQuotation | closeQuotation => true
  | _ => false

def isPicture : LineClass → Bool
  | ideograph | pictograph | emojiBase | emojiModifier => true
  | _ => false

def isHangul : LineClass → Bool
  | jamoL | jamoV | jamoT | hangulLV | hangulLVT => true
  | _ => false

/-- Characters that end a line wherever they stand. -/
def isLineEnd : LineClass → Bool
  | mandatory | carriageReturn | lineFeed | nextLine => true
  | _ => false

def isMark : LineClass → Bool
  | combining | joiner => true
  | _ => false

/-- Whether a mark combines with a character of the class before it. -/
def takesMarks (cls : LineClass) : Bool := !cls.isLineEnd && cls != space && cls != zeroWidthSpace

/-- Punctuation that stays on the line of what is before it, even across spaces. -/
def isTrailing (cls : LineClass) : Bool :=
  cls.isClosing || cls == exclamation || cls == infixSeparator || cls == solidus

/-- Signs that stand before or behind a number. -/
def isNumberSign : LineClass → Bool
  | beforeNumber | afterNumber => true
  | _ => false

/-- Letters that an orthographic syllable of a Brahmic script is built on. -/
def isSyllableBase : LineClass → Bool
  | aksara | aksaraStart | dottedCircle => true
  | _ => false

/-- Behind these an opening quotation mark does open a quotation. -/
def precedesQuotation (cls : LineClass) : Bool :=
  cls.isLineEnd || cls.isOpening || cls.isQuotation || cls == glue || cls == space || cls == zeroWidthSpace

/-- Before these a closing quotation mark does close a quotation. -/
def followsQuotation (cls : LineClass) : Bool :=
  cls.isLineEnd || cls.isTrailing || cls.isQuotation || cls == space || cls == glue || cls == wordJoiner ||
    cls == zeroWidthSpace

/-- Parts of one number, with the signs around it. -/
def holdsNumber (before after : LineClass) : Bool :=
  ((before.isClosing || before == numeric) && after.isNumberSign) ||
    (before.isNumberSign && after.isOpening) ||
    ((before.isNumberSign || before == hyphen || before == infixSeparator || before == solidus ||
      before == numeric) && after == numeric)

/-- Parts of one Hangul syllable. -/
def holdsSyllable (before after : LineClass) : Bool :=
  match before, after with
  | jamoL, jamoL | jamoL, jamoV | jamoL, hangulLV | jamoL, hangulLVT => true
  | jamoV, jamoV | jamoV, jamoT | hangulLV, jamoV | hangulLV, jamoT => true
  | jamoT, jamoT | hangulLVT, jamoT => true
  | _, _ => false

/-- Whether two adjacent characters stay on one line, by the rules that look at no other character. -/
def holds (before after : LineClass) : Bool :=
  after == breakAfter || after == hyphen || after == nonStarter || before == breakBefore ||
  (before == solidus && after == hebrewLetter) || after == inseparable ||
  (before.isWord && after == numeric) || (before == numeric && after.isWord) ||
  (before == beforeNumber && after.isPicture) || (before.isPicture && after == afterNumber) ||
  (before.isNumberSign && after.isWord) || (before.isWord && after.isNumberSign) ||
  holdsNumber before after || holdsSyllable before after ||
  (before.isHangul && after == afterNumber) || (before == beforeNumber && after.isHangul) ||
  (before.isWord && after.isWord) ||
  (before == aksaraPrefix && after.isSyllableBase) ||
  (before.isSyllableBase && (after == virama || after == finalVirama)) ||
  (before == infixSeparator && after.isWord) ||
  ((before.isWord || before == numeric) && after == openPunct) ||
  (before == closeParen && (after.isWord || after == numeric)) ||
  ((before == emojiBase || before == pictograph) && after == emojiModifier)

end LineClass

structure LineUnit where
  cls : LineClass
  /-- How many marks follow the character. -/
  marks : Nat
  /-- Whether the unit ends with a joiner. -/
  joined : Bool

/-- The units of a text. A mark that has no character to stand on counts as a letter. -/
def lineUnits : List Char → List LineUnit
  | [] => []
  | c :: cs =>
    let isMark (c : Char) := (lineClass c).isMark
    let cls := if isMark c then .alphabetic else lineClass c
    let marks := if cls.takesMarks then cs.takeWhile isMark else []
    let joined := lineClass (marks.getLastD c) == .joiner
    ⟨cls, marks.length, joined⟩ :: lineUnits (cs.drop marks.length)
termination_by cs => cs.length
decreasing_by simp only [List.length_drop, List.length_cons]; omega

/-- Whether two adjacent units are parts of one orthographic syllable that a third one shows. -/
def holdsAksara (before : LineUnit) (earlier : List LineUnit) (after : LineUnit) (later : List LineUnit) : Bool :=
  (before.cls == .virama && earlier.head?.any (·.cls.isSyllableBase) &&
      (after.cls == .aksara || after.cls == .dottedCircle)) ||
    (before.cls.isSyllableBase && after.cls.isSyllableBase && later.head?.any (·.cls == .finalVirama))

/-- Whether the line may be broken between two adjacent units; `earlier` are the units before them, the
nearest first, and `later` those behind. -/
def breaksBetween (before : LineUnit) (earlier : List LineUnit) (after : LineUnit) (later : List LineUnit) : Bool :=
  let b := before.cls
  let a := after.cls
  let unspaced := (before :: earlier).dropWhile (·.cls == .space)
  let held := unspaced.head?.map (·.cls)
  if b.isLineEnd then !(b == .carriageReturn && a == .lineFeed)
  else if a.isLineEnd || a == .space || a == .zeroWidthSpace then false
  else if held == some .zeroWidthSpace then true
  else if before.joined || a == .wordJoiner || b == .wordJoiner || b == .glue then false
  else if a == .glue && b != .space && b != .breakAfter && b != .hyphen then false
  else if a.isTrailing || held.any (·.isOpening) then false
  else if held == some .openQuotation && unspaced.tail.head?.all (·.cls.precedesQuotation) then false
  else if a == .closeQuotation && later.head?.all (·.cls.followsQuotation) then false
  else if held.any (·.isClosing) && a == .nonStarter then false
  else if held == some .breakBoth && a == .breakBoth then false
  else if b == .space then true
  else if a.isQuotation || b.isQuotation then false
  else if a == .contingent || b == .contingent then true
  else if (b == .hyphen || b == .breakAfter) && earlier.head?.any (·.cls == .hebrewLetter) then false
  else if b.holds a || holdsAksara before earlier after later then false
  else if b == .regional && a == .regional then
    ((before :: earlier).takeWhile (·.cls == .regional)).length % 2 == 0
  else true

/-- For every character of the units whether the line may be broken behind it; behind the last one it may. -/
def breaksFrom (earlier : List LineUnit) : List LineUnit → List Bool
  | [] => []
  | [last] => List.replicate last.marks false ++ [true]
  | before :: after :: later =>
    List.replicate before.marks false ++ breaksBetween before earlier after later ::
      breaksFrom (before :: earlier) (after :: later)

/-- For every character whether the line may be broken behind it; behind the last one it may. -/
def breaksAfter (cs : List Char) : List Bool := breaksFrom [] (lineUnits cs)

end Stencil.Text
