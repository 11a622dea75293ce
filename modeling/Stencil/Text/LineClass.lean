import Stencil.Text.CharSet

/-! The classes of characters that decide where a line may be broken (UAX #14). -/

set_option autoImplicit false

namespace Stencil.Text

/-- Line-breaking classes after resolution: every character of an unclear class counts as alphabetic,
small kana as non-starters. Classes of their own are the quotation marks that open or close, the wide
brackets of East Asian text, the dotted circle among the letters and the unassigned pictographs among the
ideographs. -/
inductive LineClass where
  | alphabetic | dottedCircle | combining | ideograph | pictograph | breakAfter | breakBefore | breakBoth
  | closePunct | closeParen | wideClose | openPunct | wideOpen | numeric | nonStarter
  | emojiBase | emojiModifier | exclamation | beforeNumber | afterNumber | glue
  | quotation | openQuotation | closeQuotation
  | infixSeparator | hebrewLetter | inseparable | jamoL | jamoV | jamoT | hangulLV | hangulLVT
  | aksara | aksaraPrefix | aksaraStart | virama | finalVirama
  | wordJoiner | carriageReturn | lineFeed | nextLine | mandatory | space | hyphen | solidus
  | zeroWidthSpace | joiner | contingent | regional
  deriving DecidableEq, Repr

end Stencil.Text
