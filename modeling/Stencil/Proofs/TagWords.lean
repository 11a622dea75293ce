import Stencil.Proofs.Grammar
import Stencil.Proofs.Placement
import Stencil.Template.Bits

/-! The words of a tag, told without the scan that cuts them: between them stand just the blanks that no quotation
holds. -/

set_option autoImplicit false

namespace Stencil.Template

open Text (byteLength isBlank StandsAt)

section
variable {quote : Char} {body : List Char}

theorem QuotedBody.concat (quoted : QuotedBody quote body) {c : Char} (other : c ≠ quote) (plain : c ≠ '\\') :
    QuotedBody quote (body ++ [c]) := by
  induction quoted with
  | nil => exact .plain other plain .nil
  | plain first unguarded _ ih => exact .plain first unguarded ih
  | guarded _ ih => exact .guarded ih

theorem QuotedBody.concat_guarded (quoted : QuotedBody quote body) (c : Char) :
    QuotedBody quote (body ++ ['\\', c]) := by
  induction quoted with
  | nil => exact .guarded .nil
  | plain first unguarded _ ih => exact .plain first unguarded ih
  | guarded _ ih => exact .guarded ih

end

/-- A text in which every quotation that opens is closed. -/
inductive QuotesClosed : List Char → Prop
  | nil : QuotesClosed []
  | plain {text : List Char} {c : Char} : QuotesClosed text → c ≠ '\'' → c ≠ '"' → QuotesClosed (text ++ [c])
  | quoted {text quotation : List Char} : QuotesClosed text → IsConstant quotation → QuotesClosed (text ++ quotation)

/-- What a text leaves open: nothing, a quotation, or a quotation with a backslash at its end. -/
inductive Quoting.LeftBy : Quoting → List Char → Prop
  | outside {text : List Char} : QuotesClosed text → LeftBy .outside text
  | inside {front body : List Char} {mark : Char} : QuotesClosed front → (mark = '\'' ∨ mark = '"') →
      QuotedBody mark body → LeftBy (.inside mark) (front ++ mark :: body)
  | escaped {front body : List Char} {mark : Char} : QuotesClosed front → (mark = '\'' ∨ mark = '"') →
      QuotedBody mark body → LeftBy (.escaped mark) (front ++ mark :: (body ++ ['\\']))

namespace Quoting

theorem LeftBy.next {quoting : Quoting} {text : List Char} (left : quoting.LeftBy text) (c : Char) :
    (quoting.next c).LeftBy (text ++ [c]) := by
  cases left with
  | outside closed =>
    rw [Quoting.next]
    split
    next mark => exact .inside closed mark .nil
    next plain =>
      rw [not_or] at plain
      exact .outside (.plain closed plain.1 plain.2)
  | @inside front body mark closed quotes quoted =>
    rw [Quoting.next, List.append_assoc, List.cons_append]
    split
    next guard => exact guard ▸ .escaped closed quotes quoted
    next plain =>
      split
      next same =>
        exact .outside (.quoted closed ⟨mark, body, quotes.symm, quoted, by rw [same]⟩)
      next other => exact .inside closed quotes (quoted.concat other plain)
  | @escaped front body mark closed quotes quoted =>
    rw [Quoting.next, List.append_assoc, List.cons_append, List.append_assoc]
    exact .inside closed quotes (quoted.concat_guarded c)

/-- What is open behind a text. -/
def after (text : List Char) : Quoting := text.foldl next .outside

theorem after_concat (text : List Char) (c : Char) : after (text ++ [c]) = (after text).next c := List.foldl_concat ..

theorem leftBy_after (text : List Char) : (after text).LeftBy text := by
  induction text using List.reverseRecOn with
  | nil => exact .outside .nil
  | append_singleton text c ih =>
    rw [after_concat]
    exact ih.next c

theorem foldl_body {mark : Char} {body : List Char} (quoted : QuotedBody mark body) :
    body.foldl next (.inside mark) = .inside mark := by
  induction quoted with
  | nil => rfl
  | plain other unguarded _ ih => rwa [List.foldl_cons, next, if_neg unguarded, if_neg other]
  | guarded _ ih => rwa [List.foldl_cons, next, if_pos rfl, List.foldl_cons, next]

/-- The automaton is outside of quotations just where every quotation that opened is closed. -/
theorem after_eq_outside_iff {text : List Char} : after text = .outside ↔ QuotesClosed text := by
  constructor
  · intro outside
    have left := leftBy_after text
    rw [outside] at left
    cases left with
    | outside closed => exact closed
  · intro closed
    induction closed with
    | nil => rfl
    | plain _ single double ih => rw [after_concat, ih, next, if_neg (not_or.mpr ⟨single, double⟩)]
    | quoted _ constant ih =>
      obtain ⟨mark, body, quotes, quoted, rfl⟩ := constant
      have plain : mark ≠ '\\' := by rcases quotes with rfl | rfl <;> decide
      rw [after, List.foldl_append, ← after, ih, List.foldl_cons, next, if_pos quotes.symm, List.foldl_append,
        foldl_body quoted, List.foldl_cons, next, if_neg plain, if_pos rfl, List.foldl_nil]

/-- A quotation that is closed behind a text was closed by a mark in it. -/
theorem exists_closing {mark : Char} (text : List Char) :
    (text.foldl next (.inside mark) = .outside → ∃ body more, text = body ++ mark :: more ∧ QuotedBody mark body) ∧
      (text.foldl next (.escaped mark) = .outside →
        ∃ c body more, text = c :: (body ++ mark :: more) ∧ QuotedBody mark body) := by
  induction text with
  | nil => exact ⟨nofun, nofun⟩
  | cons c text ih =>
    refine ⟨fun closed => ?_, fun closed => ?_⟩
    · rw [List.foldl_cons, next] at closed
      split at closed
      next guard =>
        obtain ⟨d, body, more, rfl, quoted⟩ := ih.2 closed
        exact ⟨c :: d :: body, more, rfl, guard ▸ .guarded quoted⟩
      next unguarded =>
        split at closed
        next same => exact ⟨[], text, by rw [same]; rfl, .nil⟩
        next other =>
          obtain ⟨body, more, rfl, quoted⟩ := ih.1 closed
          exact ⟨c :: body, more, rfl, .plain other unguarded quoted⟩
    · obtain ⟨body, more, rfl, quoted⟩ := ih.1 closed
      exact ⟨c, body, more, rfl, quoted⟩

/-- Behind a mark that opens a quotation without an end, no place has all its quotations closed. -/
theorem not_closed_behind {before after : List Char} {mark : Char} (closed : QuotesClosed before)
    (quotes : mark = '\'' ∨ mark = '"') (never : ∀ body more, after = body ++ mark :: more → ¬QuotedBody mark body)
    {inside more : List Char} (split : mark :: after = inside ++ more) (some_ : inside ≠ []) :
    ¬QuotesClosed (before ++ inside) := by
  obtain ⟨_, inside, rfl⟩ := List.exists_cons_of_ne_nil some_
  obtain ⟨rfl, rfl⟩ := List.cons.inj split
  rw [← after_eq_outside_iff, Quoting.after, List.foldl_append, ← Quoting.after, after_eq_outside_iff.mpr closed,
    List.foldl_cons, next, if_pos quotes]
  intro outside
  obtain ⟨body, rest, rfl, quoted⟩ := (exists_closing inside).1 outside
  exact never body (rest ++ more) (by simp) quoted

end Quoting

namespace Bit

/-- A character behind a text keeps words apart: a blank where no quotation is open. -/
def Separates (before : List Char) (c : Char) : Prop := isBlank c = true ∧ QuotesClosed before

/-- The word that a text is behind a front of the content. -/
def ofText (offset : Nat) (front text : List Char) : Bit :=
  ⟨String.ofList text, .ofLength (offset + byteLength front) (byteLength text)⟩

/-- A byte of the source is one of the word. -/
def Covers (bit : Bit) (position : Nat) : Prop := bit.span.start ≤ position ∧ position < bit.span.stop

@[simp] theorem start_ofText (offset : Nat) (front text : List Char) :
    (ofText offset front text).span.start = offset + byteLength front := rfl

@[simp] theorem stop_ofText (offset : Nat) (front text : List Char) :
    (ofText offset front text).span.stop = offset + byteLength (front ++ text) := by
  rw [Text.byteLength_append, ← Nat.add_assoc]
  rfl

/-- A word covers a character behind its front just if the word is longer than what stands before the character. -/
theorem ofText_covers_iff {offset : Nat} {front text before : List Char} :
    (ofText offset front text).Covers (offset + byteLength (front ++ before)) ↔ byteLength before < byteLength text := by
  simp only [Covers, start_ofText, stop_ofText, Text.byteLength_append]
  omega

/-- Words of the rest of a content behind its front: each goes on up to the next character that separates. -/
inductive Cut (offset : Nat) : (front rest : List Char) → List Bit → Prop
  | nil {front : List Char} : Cut offset front [] []
  | blank {front rest : List Char} {c : Char} {bits : List Bit} : Separates front c →
      Cut offset (front ++ [c]) rest bits → Cut offset front (c :: rest) bits
  | word {front text rest : List Char} {bits : List Bit} : text ≠ [] →
      (∀ before c after, text = before ++ c :: after → ¬Separates (front ++ before) c) →
      (∀ c, rest.head? = some c → Separates (front ++ text) c) →
      Cut offset (front ++ text) rest bits → Cut offset front (text ++ rest) (ofText offset front text :: bits)

section
variable {offset : Nat} {front rest pending : List Char} {bits : List Bit}

/-- The unfinished word is a word if the next character separates. -/
theorem Cut.of_pending (held : ∀ before c after, pending.reverse = before ++ c :: after → ¬Separates (front ++ before) c)
    (stops : ∀ c, rest.head? = some c → Separates (front ++ pending.reverse) c)
    (cut : Cut offset (front ++ pending.reverse) rest bits) :
    Cut offset front (pending.reverse ++ rest)
      (ofReversed pending (offset + byteLength (front ++ pending.reverse)) ++ bits) := by
  unfold ofReversed
  split
  next none =>
    rw [List.isEmpty_iff.mp none, List.reverse_nil, List.append_nil] at cut
    rwa [List.isEmpty_iff.mp none]
  next some_ =>
    have some_ : pending.reverse ≠ [] := by simpa using some_
    have bit := Cut.word some_ held stops cut
    have span : (⟨offset + byteLength (front ++ pending.reverse) - byteLength pending,
        offset + byteLength (front ++ pending.reverse)⟩ : Span) =
          .ofLength (offset + byteLength front) (byteLength pending.reverse) := by
      simp only [Span.ofLength, Text.byteLength_append, Text.byteLength_reverse, Span.mk.injEq]
      omega
    rw [List.singleton_append, span]
    exact bit

/-- The scan cuts the unfinished word and the text behind it. -/
theorem cut_splitFrom (offset : Nat) (cs : List Char)
    (held : ∀ before c after, pending.reverse = before ++ c :: after → ¬Separates (front ++ before) c) :
    Cut offset front (pending.reverse ++ cs) (splitFrom (offset + byteLength (front ++ pending.reverse))
      (Quoting.after (front ++ pending.reverse)) pending cs) := by
  induction cs generalizing front pending with
  | nil =>
    rw [splitFrom, ← List.append_nil (ofReversed ..)]
    exact Cut.of_pending held nofun .nil
  | cons c cs ih =>
    have step : offset + byteLength (front ++ pending.reverse) + c.utf8Size =
        offset + byteLength (front ++ pending.reverse ++ [c]) := by
      rw [Text.byteLength_append _ [c], Text.byteLength_cons, Text.byteLength_nil, Nat.add_zero, Nat.add_assoc]
    rw [splitFrom, step]
    split
    next separates =>
      have closed := Quoting.after_eq_outside_iff.mp separates.1
      -- A blank is no quote mark, so nothing is open behind it either.
      have outside : Quoting.after (front ++ pending.reverse ++ [c]) = .outside := by
        rw [Quoting.after_concat, separates.1, Quoting.next, if_neg]
        rintro (rfl | rfl) <;> exact absurd separates.2 (by decide)
      have later := @ih (front ++ pending.reverse ++ [c]) [] fun before d after split => by simp at split
      rw [List.reverse_nil, List.append_nil, List.nil_append, outside] at later
      refine Cut.of_pending held (fun d head => ?_) (.blank ⟨separates.2, closed⟩ later)
      cases head
      exact ⟨separates.2, closed⟩
    next stays =>
      have stays : ¬Separates (front ++ pending.reverse) c :=
        fun separates => stays ⟨Quoting.after_eq_outside_iff.mpr separates.2, separates.1⟩
      -- The character joins the unfinished word: it does not separate, and none before it in the word does.
      have later := @ih front (c :: pending) fun before d after split => by
        rw [List.reverse_cons] at split
        rcases List.eq_nil_or_concat after with rfl | ⟨after, last, rfl⟩
        · obtain ⟨rfl, same⟩ := List.append_inj' split rfl
          rwa [← List.singleton_inj.mp same]
        · rw [List.concat_eq_append, ← List.cons_append, ← List.append_assoc] at split
          exact held before d after (List.append_inj' split rfl).1
      rwa [List.reverse_cons, List.append_assoc, List.singleton_append, ← List.append_assoc,
        Quoting.after_concat] at later

theorem Cut.eq_nil (cut : Cut offset front rest bits) (none : rest = []) : bits = [] := by
  cases cut with
  | nil => rfl
  | blank => cases none
  | word some_ => exact absurd (List.append_eq_nil_iff.mp none).1 some_

/-- Each word is a piece of the content behind the front. -/
theorem Cut.placed (cut : Cut offset front rest bits) : ∀ bit ∈ bits, ∃ before text after,
    front ++ rest = before ++ text ++ after ∧ text ≠ [] ∧ front <+: before ∧ bit = ofText offset before text := by
  induction cut with
  | nil => nofun
  | blank _ _ ih =>
    intro bit member
    obtain ⟨before, text, after, split, some_, behind, rfl⟩ := ih bit member
    exact ⟨before, text, after, by simpa using split, some_, (List.prefix_append ..).trans behind, rfl⟩
  | @word front text rest bits some_ _ _ _ ih =>
    refine List.forall_mem_cons.mpr ⟨⟨front, text, rest, (List.append_assoc ..).symm, some_, List.prefix_rfl, rfl⟩, ?_⟩
    intro bit member
    obtain ⟨before, text, after, split, some_, behind, rfl⟩ := ih bit member
    exact ⟨before, text, after, by simpa using split, some_, (List.prefix_append ..).trans behind, rfl⟩

theorem Cut.start_le (cut : Cut offset front rest bits) : ∀ bit ∈ bits, offset + byteLength front ≤ bit.span.start := by
  intro bit member
  obtain ⟨before, text, after, -, -, ⟨more, rfl⟩, rfl⟩ := cut.placed bit member
  rw [start_ofText, Text.byteLength_append]
  omega

/-- A character lies outside of all words just if it separates. -/
theorem Cut.covers_iff (cut : Cut offset front rest bits) {before after : List Char} {c : Char}
    (split : front ++ rest = before ++ c :: after) (behind : front <+: before) :
    (∃ bit ∈ bits, bit.Covers (offset + byteLength before)) ↔ ¬Separates before c := by
  induction cut generalizing before c after with
  | nil =>
    obtain ⟨more, rfl⟩ := behind
    simp at split
  | @blank front rest d bits separates cut ih =>
    obtain ⟨more, rfl⟩ := behind
    rw [List.append_assoc, List.append_cancel_left_eq] at split
    rcases List.cons_eq_append_iff.mp split with ⟨rfl, same⟩ | ⟨more, rfl, split⟩
    · obtain ⟨rfl, rfl⟩ := List.cons.inj same
      rw [List.append_nil]
      refine iff_of_false ?_ (not_not_intro separates)
      rintro ⟨bit, member, le, -⟩
      have start := cut.start_le bit member
      have pos := c.utf8Size_pos
      rw [Text.byteLength_append, Text.byteLength_cons] at start
      omega
    · have here : front ++ d :: more = front ++ [d] ++ more := by simp
      have there : front ++ [d] ++ rest = front ++ [d] ++ more ++ c :: after := by simp [split]
      rw [here]
      exact ih there (List.prefix_append ..)
  | @word front text rest bits _ holds _ cut ih =>
    obtain ⟨more, rfl⟩ := behind
    rw [List.append_assoc, List.append_cancel_left_eq] at split
    rw [List.exists_mem_cons_iff]
    -- A character behind the word is one of the rest, where only the later words can cover it.
    have beyond {tail : List Char} (further : more = text ++ tail) (tails : rest = tail ++ c :: after) :
        ((ofText offset front text).Covers (offset + byteLength (front ++ more)) ∨
          ∃ bit ∈ bits, bit.Covers (offset + byteLength (front ++ more))) ↔ ¬Separates (front ++ more) c := by
      subst further tails
      have there : front ++ text ++ (tail ++ c :: after) = front ++ text ++ tail ++ c :: after := by simp
      rw [← List.append_assoc, ← ih there (List.prefix_append ..), or_iff_right]
      intro inside
      rw [List.append_assoc, ofText_covers_iff, Text.byteLength_append] at inside
      omega
    rcases List.append_eq_append_iff.mp split with ⟨tail, further, tails⟩ | ⟨tail, rfl, tails⟩
    · exact beyond further tails
    · cases tail with
      | nil =>
        have whole : more = more ++ [] ++ [] := by simp
        exact beyond whole tails.symm
      | cons d tail =>
        obtain ⟨rfl, rfl⟩ := List.cons.inj tails
        have pos := c.utf8Size_pos
        refine iff_of_true (Or.inl ?_) (holds more c tail rfl)
        rw [ofText_covers_iff, Text.byteLength_append, Text.byteLength_cons]
        omega

/-- Only blanks stand before the next word, and one at least if the next character separates. -/
theorem Cut.gap {bit : Bit} (cut : Cut offset front rest (bit :: bits)) : ∃ gap after, rest = gap ++ after ∧
    (∀ c ∈ gap, isBlank c = true) ∧ bit.span.start = offset + byteLength (front ++ gap) ∧
    ∀ c, rest.head? = some c → Separates front c → gap ≠ [] := by
  generalize all : bit :: bits = words at cut
  induction cut with
  | nil => cases all
  | @blank front rest c words separates _ ih =>
    obtain ⟨gap, after, rfl, blanks, start, -⟩ := ih all
    refine ⟨c :: gap, after, rfl, List.forall_mem_cons.mpr ⟨separates.1, blanks⟩, ?_, fun _ _ _ => List.cons_ne_nil _ _⟩
    rw [start, List.append_assoc, List.singleton_append]
  | @word front text rest words some_ holds _ _ _ =>
    cases all
    refine ⟨[], text ++ rest, rfl, nofun, by rw [List.append_nil]; rfl, fun c head separates => ?_⟩
    obtain ⟨d, text, rfl⟩ := List.exists_cons_of_ne_nil some_
    cases head
    exact absurd (by rwa [List.append_nil]) (holds [] _ text rfl)

/-- Words that follow each other have a gap of blanks between them. -/
def Apart (content : String) (offset : Nat) (bit next : Bit) : Prop :=
  ∃ gap, gap ≠ [] ∧ (∀ c ∈ gap, isBlank c = true) ∧ StandsAt content.toList (bit.span.stop - offset) gap ∧
    next.span.start = bit.span.stop + byteLength gap

theorem Cut.apart {content : String} (cut : Cut offset front rest bits) (split : content.toList = front ++ rest) :
    bits.IsChain (Apart content offset) := by
  induction cut with
  | nil => exact .nil
  | blank _ _ ih => exact ih (by simpa using split)
  | @word front text rest bits _ _ stops cut ih =>
    cases bits with
    | nil => exact .singleton _
    | cons next bits =>
      refine .cons_cons ?_ (ih (by simpa using split))
      obtain ⟨gap, after, rfl, blanks, start, some_⟩ := cut.gap
      have some_ : gap ≠ [] := by
        rintro rfl
        cases after with
        | nil => cases cut.eq_nil rfl
        | cons c after => exact some_ c rfl (stops c rfl) rfl
      refine ⟨gap, some_, blanks, ⟨front ++ text, after, by simpa using split, ?_⟩, ?_⟩
      · rw [stop_ofText, Nat.add_sub_cancel_left]
      · rw [start, stop_ofText, Text.byteLength_append _ gap, Nat.add_assoc]

theorem Cut.ordered (cut : Cut offset front rest bits) :
    bits.Pairwise fun bit later => bit.span.stop ≤ later.span.start := by
  induction cut with
  | nil => exact .nil
  | blank _ _ ih => exact ih
  | @word front text rest bits _ _ _ cut ih =>
    refine .cons (fun later member => ?_) ih
    rw [stop_ofText]
    exact cut.start_le later member

/-- From a point on where no quotation is closed any more, everything belongs to the last word. -/
theorem Cut.open_ (cut : Cut offset front rest bits) {before after : List Char} (split : front ++ rest = before ++ after)
    (behind : front <+: before) (some_ : after ≠ [])
    (unclosed : ∀ inside more, after = inside ++ more → inside ≠ [] → ¬QuotesClosed (before ++ inside)) :
    ∃ bit, bits.getLast? = some bit ∧ bit.span.start ≤ offset + byteLength before ∧
      bit.span.stop = offset + byteLength (before ++ after) := by
  induction cut generalizing before after with
  | nil =>
    obtain ⟨more, rfl⟩ := behind
    simp [some_] at split
  | @blank front rest d bits separates cut ih =>
    obtain ⟨more, rfl⟩ := behind
    rw [List.append_assoc, List.append_cancel_left_eq] at split
    rcases List.cons_eq_append_iff.mp split with ⟨rfl, rfl⟩ | ⟨more, rfl, split⟩
    · have closed : QuotesClosed (front ++ [d]) := by
        refine .plain separates.2 ?_ ?_ <;> rintro rfl <;> exact absurd separates.1 (by decide)
      rw [List.append_nil] at unclosed
      exact absurd closed (unclosed [d] rest rfl (List.cons_ne_nil _ _))
    · have here : front ++ d :: more = front ++ [d] ++ more := by simp
      rw [here] at unclosed ⊢
      exact ih (by simp [split]) (List.prefix_append ..) some_ unclosed
  | @word front text rest bits _ _ stops cut ih =>
    obtain ⟨more, rfl⟩ := behind
    rw [List.append_assoc, List.append_cancel_left_eq] at split
    -- Where a word ends before the content does, all quotations are closed, which is never so behind the point.
    have beyond (within : ¬∃ tail, more = text ++ tail) : bits = [] ∧ rest = [] := by
      rcases List.append_eq_append_iff.mp split with ⟨tail, rfl, -⟩ | ⟨tail, rfl, rfl⟩
      · exact absurd ⟨tail, rfl⟩ within
      · have some' : tail ≠ [] := by
          rintro rfl
          exact within ⟨[], by simp⟩
        cases rest with
        | nil => exact ⟨cut.eq_nil rfl, rfl⟩
        | cons c rest =>
          have closed := (stops c rfl).2
          rw [← List.append_assoc] at closed
          exact absurd closed (unclosed tail (c :: rest) rfl some')
    by_cases within : ∃ tail, more = text ++ tail
    · obtain ⟨tail, rfl⟩ := within
      rw [List.append_assoc, List.append_cancel_left_eq] at split
      rw [← List.append_assoc] at unclosed ⊢
      obtain ⟨bit, last, found⟩ := ih (by simp [split]) (List.prefix_append ..) some_ unclosed
      refine ⟨bit, ?_, found⟩
      rw [List.getLast?_cons, last, Option.getD_some]
    · obtain ⟨rfl, rfl⟩ := beyond within
      refine ⟨ofText offset front text, rfl, ?_, ?_⟩
      · rw [start_ofText, Text.byteLength_append]
        omega
      · rw [List.append_nil] at split
        rw [stop_ofText, List.append_assoc, ← split]

end

/-- The words of a content that starts at an offset of the source. -/
structure Words (content : String) (offset : Nat) (bits : List Bit) : Prop where
  some_ : ∀ bit ∈ bits, bit.text ≠ ""
  /-- Each word is what its span covers. -/
  reads : ∀ bit ∈ bits, offset ≤ bit.span.start ∧
    (Span.mk (bit.span.start - offset) (bit.span.stop - offset)).slice? content = some bit.text
  ordered : bits.Pairwise fun bit later => bit.span.stop ≤ later.span.start
  apart : bits.IsChain (Apart content offset)
  /-- Outside of the words stand just the blanks that no quotation holds. -/
  covers_iff : ∀ before c after, content.toList = before ++ c :: after →
    ((∃ bit ∈ bits, bit.Covers (offset + byteLength before)) ↔ ¬(isBlank c = true ∧ QuotesClosed before))
  /-- A quotation that is never closed goes on to the end of the last word. -/
  unclosed : ∀ before mark after, content.toList = before ++ mark :: after → QuotesClosed before →
    (mark = '\'' ∨ mark = '"') → (∀ body more, after = body ++ mark :: more → ¬QuotedBody mark body) →
    ∃ bit, bits.getLast? = some bit ∧ bit.Covers (offset + byteLength before) ∧
      bit.span.stop = offset + content.utf8ByteSize

/-- A content is split into words just at the blanks that no quotation holds. -/
theorem split_words (content : String) (offset : Nat) : Words content offset (split content offset) := by
  have none (before : List Char) (c : Char) (after : List Char) (split : [].reverse = before ++ c :: after) :
      ¬Separates ([] ++ before) c := by simp at split
  have cut : Cut offset [] content.toList (split content offset) := cut_splitFrom offset content.toList none
  refine ⟨fun bit member => ?_, fun bit member => ?_, cut.ordered, cut.apart rfl, fun before c after split => ?_,
    fun before mark after split closed quotes never => ?_⟩
  · obtain ⟨before, text, after, -, some_, -, rfl⟩ := cut.placed bit member
    simpa [ofText] using some_
  · obtain ⟨before, text, after, split, -, -, rfl⟩ := cut.placed bit member
    have start : offset + byteLength before - offset = byteLength before := Nat.add_sub_cancel_left ..
    have stop : offset + byteLength before + byteLength text - offset = byteLength before + byteLength text := by omega
    refine ⟨Nat.le_add_right .., ?_⟩
    simp only [ofText, Span.ofLength, start, stop]
    exact Span.slice?_of_split split
  · exact cut.covers_iff split List.nil_prefix
  · obtain ⟨bit, last, start, stop⟩ := cut.open_ split List.nil_prefix (List.cons_ne_nil _ _)
      fun _ _ => Quoting.not_closed_behind closed quotes never
    have pos := mark.utf8Size_pos
    refine ⟨bit, last, ⟨start, ?_⟩, ?_⟩
    · rw [stop, Text.byteLength_append, Text.byteLength_cons]
      omega
    · rw [stop, ← split, Text.byteLength_toList]

example : split "load 'a b\\' c' é\"x" 3 =
    [⟨"load", ⟨3, 7⟩⟩, ⟨"'a b\\' c'", ⟨8, 17⟩⟩, ⟨"é\"x", ⟨18, 22⟩⟩] := by decide +kernel

end Bit

end Stencil.Template
