import Mathlib.Data.List.TakeWhile
import Stencil.Proofs.TagMatch

/-! The tokens of a template tile it: the tags are the leftmost matches, the plain text fills the gaps, and
the only failure is an opening mark that the scan comes to and that is never closed. -/

set_option autoImplicit false

namespace Stencil.Text

/-- A text is its trimmed text between blanks. -/
theorem trim_split (cs : List Char) :
    ∃ tail, (∀ c ∈ tail, isBlank c = true) ∧ cs = cs.takeWhile isBlank ++ trim cs ++ tail := by
  let rest := (cs.dropWhile isBlank).reverse
  refine ⟨(rest.takeWhile isBlank).reverse, fun c member => ?_, ?_⟩
  · exact List.mem_takeWhile_imp (List.mem_reverse.mp member)
  · have kept : cs.dropWhile isBlank = trim cs ++ (rest.takeWhile isBlank).reverse := by
      rw [trim, ← List.reverse_append, List.takeWhile_append_dropWhile, List.reverse_reverse]
    rw [List.append_assoc, ← kept, List.takeWhile_append_dropWhile]

end Stencil.Text

namespace Stencil.Template

open Text (StandsAt byteLength splitAtPair isBlank trim)

/-- The gaps that tags leave between two positions; a gap without text is none. -/
def gaps (position stop : Nat) : List Extent → List Span
  | [] => if position < stop then [⟨position, stop⟩] else []
  | tag :: tags => (if position < tag.start then [⟨position, tag.start⟩] else []) ++ gaps tag.stop stop tags

/-- Spans without gaps, none of them empty, from one position to another. -/
def Adjoin (position : Nat) : List Span → Nat → Prop
  | [], stop => position = stop
  | span :: spans, stop => span.start = position ∧ position < span.stop ∧ Adjoin span.stop spans stop

namespace Token

def isText : Token → Bool
  | text .. => true
  | tag .. => false

def extent? : Token → Option Extent
  | text .. => none
  | tag kind _ span _ => some ⟨kind, span.start, span.stop - 2⟩

/-- A token holds the piece of the source under its span. -/
inductive Placed (source : List Char) : Token → Prop
  | text {before content after : List Char} : source = before ++ content ++ after → content ≠ [] →
      Placed source (.text (String.ofList content) ⟨byteLength before, byteLength before + byteLength content⟩)
  | tag {before inner after : List Char} (kind : Delimiter) :
      source = before ++ (kind.openText.toList ++ (inner ++ (kind.closeText.toList ++ after))) →
      '\n' ∉ inner → Placed source (ofTag kind (byteLength before) inner)

end Token

/-- What the tokens of a source from a position on are. -/
structure Tiled (source : List Char) (start : Nat) (tokens : List Token) : Prop where
  leftmost : Leftmost source start (tokens.filterMap Token.extent?)
  texts : (tokens.filter Token.isText).map Token.span =
    gaps start (byteLength source) (tokens.filterMap Token.extent?)
  adjoin : Adjoin start (tokens.map Token.span) (byteLength source)
  separated : tokens.IsChain fun a b => ¬(a.isText ∧ b.isText)
  placed : ∀ token ∈ tokens, token.Placed source

/-- The first unclosed opening mark that the scan comes to. -/
structure FirstUnclosed (source : List Char) (start : Nat) (kind : Delimiter) (position : Nat) : Prop where
  reached : Reaches source start position
  unclosed : Unclosed source kind position
  first : ∀ other earlier, Reaches source start earlier → Unclosed source other earlier → position ≤ earlier

theorem FirstUnclosed.unique {source : List Char} {start position other : Nat} {kind kind' : Delimiter}
    (found : FirstUnclosed source start kind position) (also : FirstUnclosed source start kind' other) :
    kind = kind' ∧ position = other := by
  -- Each of the two comes no later than the other, and one position opens one kind of tag.
  have same : position = other := Nat.le_antisymm
    (found.first _ _ also.reached also.unclosed) (also.first _ _ found.reached found.unclosed)
  subst same
  obtain ⟨before, rest, rfl, rfl⟩ := found.unclosed.opens
  have opens := also.unclosed.opens
  rw [List.append_assoc, opensAt_iff, kind.atStart?_openText, Option.some.injEq] at opens
  exact ⟨opens, rfl⟩

/-- What a scan from a position answers, when the plain text before it goes back to `start`. -/
def Answers (source : List Char) (start position : Nat) : Except ParseError (List Token) → Prop
  | .ok tokens => (∀ kind reached, Reaches source position reached → ¬Unclosed source kind reached) ∧
      Tiled source start tokens
  | .error error => ∃ kind opening, FirstUnclosed source position kind opening ∧
      error = .unclosedTag kind ⟨opening, opening + 2⟩

section
variable {source : List Char} {start position next : Nat}

theorem Answers.of_move {result : Except ParseError (List Token)} (answers : Answers source start next result)
    (move : Move source position next) (closed : ∀ kind, ¬Unclosed source kind position) :
    Answers source start position result := by
  cases result with
  | ok tokens =>
    refine ⟨fun kind reached reaches => ?_, answers.2⟩
    rcases move.reaches_iff.mp reaches with rfl | later
    · exact closed kind
    · exact answers.1 kind reached later
  | error error =>
    obtain ⟨kind, opening, found, same⟩ := answers
    refine ⟨kind, opening, ⟨.head move found.reached, found.unclosed, fun other earlier reaches left => ?_⟩, same⟩
    rcases move.reaches_iff.mp reaches with rfl | later
    · exact absurd left (closed other)
    · exact found.first other earlier later left

/-- The tags behind a stretch without a match are those from its start on. -/
theorem Leftmost.widen {tags : List Extent} (leftmost : Leftmost source next tags) (le : start ≤ next)
    (clean : ∀ tag : Extent, tag.Matches source → start ≤ tag.start → next ≤ tag.start) :
    Leftmost source start tags := by
  cases leftmost with
  | done none =>
    refine .done fun tag found => ?_
    have before := none tag found
    have behind := clean tag found
    omega
  | next found behind first rest =>
    exact .next found (Nat.le_trans le behind)
      (fun other also reached => first other also (clean other also reached)) rest

end

theorem Token.ofText_cases (start : Nat) (pending : List Char) :
    (pending = [] ∧ ofText pending (start + byteLength pending) = []) ∨
      (pending ≠ [] ∧ start < start + byteLength pending ∧ ofText pending (start + byteLength pending) =
        [.text (String.ofList pending.reverse) ⟨start, start + byteLength pending⟩]) := by
  cases pending with
  | nil => exact Or.inl ⟨rfl, rfl⟩
  | cons c pending =>
    have pos := c.utf8Size_pos
    refine Or.inr ⟨List.cons_ne_nil c pending, by rw [Text.byteLength_cons]; omega, ?_⟩
    rw [ofText, if_neg (by simp), Nat.add_sub_cancel]

theorem Token.placed_text {before pending rest : List Char} (some : pending ≠ []) :
    Placed (before ++ (pending.reverse ++ rest)) (.text (String.ofList pending.reverse)
      ⟨byteLength before, byteLength before + byteLength pending⟩) := by
  rw [← Text.byteLength_reverse pending]
  exact .text (List.append_assoc ..).symm (List.reverse_ne_nil_iff.mpr some)

section
variable {before pending : List Char}

theorem Tiled.last
    (clean : ∀ tag : Extent, tag.Matches (before ++ (pending.reverse ++ [])) → tag.start < byteLength before) :
    Tiled (before ++ (pending.reverse ++ [])) (byteLength before)
      (Token.ofText pending (byteLength before + byteLength pending)) := by
  have width : byteLength (before ++ (pending.reverse ++ [])) = byteLength before + byteLength pending := by
    simp
  rcases Token.ofText_cases (byteLength before) pending with ⟨rfl, none⟩ | ⟨some, short, one⟩
  · rw [none]
    exact ⟨.done clean, by simp [gaps], by simp [Adjoin], .nil, fun token member => nomatch member⟩
  · rw [one]
    refine ⟨.done clean, ?_, ?_, .singleton _, fun token member => ?_⟩
    · rw [width]
      exact (if_pos short).symm
    · rw [width]
      exact ⟨rfl, short, rfl⟩
    · rw [List.mem_singleton.mp member]
      exact Token.placed_text some

end

theorem Token.span_ofTag (kind : Delimiter) (position : Nat) (inner : List Char) :
    (ofTag kind position inner).span = ⟨position, position + 4 + byteLength inner⟩ := rfl

theorem Token.extent?_ofTag (kind : Delimiter) (position : Nat) (inner : List Char) :
    (ofTag kind position inner).extent? = some ⟨kind, position, position + 2 + byteLength inner⟩ := by
  simp only [ofTag, extent?, Option.some.injEq, Extent.mk.injEq, true_and]
  omega

section
variable {source : List Char} {kind : Delimiter} {position : Nat} {inner : List Char} {tokens : List Token}

theorem Tiled.tag (rest : Tiled source (position + 4 + byteLength inner) tokens)
    (found : Extent.Matches source ⟨kind, position, position + 2 + byteLength inner⟩)
    (placed : (Token.ofTag kind position inner).Placed source) :
    Tiled source position (Token.ofTag kind position inner :: tokens) := by
  have stop : (⟨kind, position, position + 2 + byteLength inner⟩ : Extent).stop =
      position + 4 + byteLength inner := by
    simp only [Extent.stop]
    omega
  have tags := List.filterMap_cons_some (Token.extent?_ofTag kind position inner) (l := tokens)
  refine ⟨?_, ?_, ?_, ?_, ?_⟩
  · rw [tags]
    exact .next found (Nat.le_refl position) (fun _ _ reached => reached) (stop ▸ rest.leftmost)
  · rw [tags, gaps, if_neg (Nat.lt_irrefl position), stop]
    exact rest.texts
  · rw [List.map_cons, Token.span_ofTag]
    exact ⟨rfl, by simp only; omega, rest.adjoin⟩
  · cases tokens with
    | nil => exact .singleton _
    | cons token tokens => exact .cons_cons (fun both => Bool.false_ne_true both.1) rest.separated
  · intro token member
    rcases List.mem_cons.mp member with rfl | later
    · exact placed
    · exact rest.placed token later

theorem Tiled.text (rest : Tiled source position (Token.ofTag kind position inner :: tokens))
    {start : Nat} {content : String} (short : start < position)
    (clean : ∀ tag : Extent, tag.Matches source → start ≤ tag.start → position ≤ tag.start)
    (placed : (Token.text content ⟨start, position⟩).Placed source) :
    Tiled source start (.text content ⟨start, position⟩ :: Token.ofTag kind position inner :: tokens) := by
  have tags := List.filterMap_cons_some (Token.extent?_ofTag kind position inner) (l := tokens)
  refine ⟨?_, ?_, ?_, ?_, ?_⟩
  · exact rest.leftmost.widen (Nat.le_of_lt short) clean
  · have texts := rest.texts
    rw [tags, gaps, if_neg (Nat.lt_irrefl position)] at texts
    rw [List.filterMap_cons_none rfl, tags, gaps, if_pos short]
    exact congrArg (⟨start, position⟩ :: ·) texts
  · exact ⟨rfl, short, rest.adjoin⟩
  · exact .cons_cons (fun both => nomatch both.2) rest.separated
  · intro token member
    rcases List.mem_cons.mp member with rfl | later
    · exact placed
    · exact rest.placed token later

end

theorem Tiled.next {source before pending inner after : List Char} {kind : Delimiter} {tokens : List Token}
    (rest : Tiled source (byteLength before + byteLength pending + 4 + byteLength inner) tokens)
    (split : source = before ++ (pending.reverse ++
      (kind.openText.toList ++ (inner ++ (kind.closeText.toList ++ after)))))
    (oneLine : '\n' ∉ inner)
    (found : Extent.Matches source ⟨kind, byteLength before + byteLength pending,
      byteLength before + byteLength pending + 2 + byteLength inner⟩)
    (clean : ∀ tag : Extent, tag.Matches source → byteLength before ≤ tag.start →
      byteLength before + byteLength pending ≤ tag.start) :
    Tiled source (byteLength before) (Token.ofText pending (byteLength before + byteLength pending) ++
      Token.ofTag kind (byteLength before + byteLength pending) inner :: tokens) := by
  have placed : (Token.ofTag kind (byteLength before + byteLength pending) inner).Placed source := by
    have width : byteLength before + byteLength pending = byteLength (before ++ pending.reverse) := by simp
    rw [width]
    exact .tag kind (by rw [split, List.append_assoc]) oneLine
  have tiled := rest.tag found placed
  rcases Token.ofText_cases (byteLength before) pending with ⟨rfl, none⟩ | ⟨some, short, one⟩
  · rw [none]
    exact tiled
  · rw [one]
    exact tiled.text short clean (split ▸ Token.placed_text some)

section
variable {source before : List Char} {position : Nat} {pending rest : List Char} {c : Char}

theorem stands_behind (split : source = before ++ (pending.reverse ++ rest))
    (here : position = byteLength before + byteLength pending) :
    source = before ++ pending.reverse ++ rest ∧ position = byteLength (before ++ pending.reverse) := by
  refine ⟨by rw [split, List.append_assoc], ?_⟩
  rw [here, Text.byteLength_append, Text.byteLength_reverse]

/-- Passing over a character keeps the plain text free of matches. -/
theorem Answers.pass (split : source = before ++ (pending.reverse ++ c :: rest))
    (here : position = byteLength before + byteLength pending)
    (clean : ∀ tag : Extent, tag.Matches source → byteLength before ≤ tag.start → position ≤ tag.start)
    (unmatched : ∀ tag : Extent, tag.Matches source → tag.start ≠ position)
    (closed : ∀ kind, ¬Unclosed source kind position) {result : Except ParseError (List Token)}
    (answers : (∀ tag : Extent, tag.Matches source → byteLength before ≤ tag.start →
      position + c.utf8Size ≤ tag.start) → Answers source (byteLength before) (position + c.utf8Size) result) :
    Answers source (byteLength before) position result := by
  obtain ⟨same, start⟩ := stands_behind split here
  have stands : StandsAt source position [c] := ⟨before ++ pending.reverse, rest, by simp [same], start.symm⟩
  refine (answers fun tag found reached => ?_).of_move (.pass stands unmatched) closed
  have later := Nat.lt_of_le_of_ne (clean tag found reached) (unmatched tag found).symm
  exact stands.behind found.opens later

end

/-- A scan in the middle of a source, behind plain text in which no tag matches. -/
theorem Token.scanFrom_answers {source before : List Char} (position : Nat) (pending cs : List Char)
    (split : source = before ++ (pending.reverse ++ cs)) (here : position = byteLength before + byteLength pending)
    (clean : ∀ tag : Extent, tag.Matches source → byteLength before ≤ tag.start → position ≤ tag.start) :
    Answers source (byteLength before) position (scanFrom position pending cs) := by
  -- One case for each way the scan goes on; only a matched tag moves the start of the plain text.
  fun_induction scanFrom position pending cs generalizing before with
  | case1 position pending =>
    -- No mark fits behind the end.
    obtain ⟨same, start⟩ := stands_behind split here
    rw [List.append_nil] at same
    rw [same] at clean ⊢
    have outside {tag : Extent} (found : tag.Matches (before ++ pending.reverse)) : tag.start < position := by
      have le := found.opens.le
      rw [Delimiter.byteLength_openText] at le
      omega
    refine ⟨fun kind reached reaches unclosed => ?_, ?_⟩
    · have le := unclosed.opens.le
      rw [Delimiter.byteLength_openText, ← start] at le
      have behind := reaches.le
      omega
    · rw [here, ← List.append_nil pending.reverse]
      refine Tiled.last fun tag found => ?_
      rw [List.append_nil] at found
      by_contra reached
      exact absurd (outside found) (Nat.not_lt.mpr (clean tag found (Nat.not_lt.mp reached)))
  | case2 position pending c rest closed ih =>
    obtain ⟨same, start⟩ := stands_behind split here
    have shut (kind : Delimiter) : ¬StandsAt source position kind.openText.toList := by
      rw [same, start, opensAt_iff, closed]
      exact nofun
    refine Answers.pass split here clean (fun tag found stays => shut tag.kind (stays ▸ found.opens))
      (fun kind unclosed => shut kind unclosed.opens) fun clean => ih ?_ ?_ clean
    · simpa using split
    · rw [here, Text.byteLength_cons]
      omega
  | case3 position pending c rest kind opens cut =>
    obtain ⟨same, start⟩ := stands_behind split here
    rw [Delimiter.atStart?_cons opens] at same
    subst same start
    -- Nothing comes before the position of the scan itself.
    exact ⟨kind, _, ⟨.refl, unclosed_of_split cut, fun _ _ reaches _ => reaches.le⟩, rfl⟩
  | case4 position pending c rest kind opens inner after cut newline ih =>
    -- A line ends before the closing mark, so the opening mark is passed over as plain text.
    obtain ⟨same, start⟩ := stands_behind split here
    rw [Delimiter.atStart?_cons opens] at same
    have newline : '\n' ∈ inner := List.contains_iff_mem.mp newline
    refine Answers.pass split here clean (fun tag found => ?_) (fun other => ?_) fun clean => ih ?_ ?_ clean
    · rw [start]
      exact not_matches_of_newline cut newline (same ▸ found)
    · rw [same, start]
      exact not_unclosed_of_split cut other
    · simpa using split
    · rw [here, Text.byteLength_cons]
      omega
  | case5 position pending c rest kind opens inner after cut oneLine ih =>
    obtain ⟨same, start⟩ := stands_behind split here
    rw [Delimiter.atStart?_cons opens] at same
    have oneLine : '\n' ∉ inner := fun newline => oneLine (List.contains_iff_mem.mpr newline)
    have found : Extent.Matches source ⟨kind, position, position + 2 + byteLength inner⟩ := by
      rw [same, start]
      exact matches_of_split cut oneLine
    have closed (other : Delimiter) : ¬Unclosed source other position := by
      rw [same, start]
      exact not_unclosed_of_split cut other
    -- The scan goes on behind the closing mark, with no plain text held.
    rw [Delimiter.close_of_split cut] at same
    let passed := before ++ pending.reverse ++ kind.openText.toList ++ inner ++ kind.closeText.toList
    have width : position + 4 + byteLength inner = byteLength passed := by
      simp only [passed, Text.byteLength_append, kind.byteLength_openText, kind.byteLength_closeText, ← start]
      omega
    have move : Move source position (position + 4 + byteLength inner) := by
      have skip := Move.skip found
      rwa [Extent.stop, show position + 2 + byteLength inner + 2 = position + 4 + byteLength inner by omega] at skip
    have answers := @ih passed (by simp [passed, same]) width fun _ _ reached => width ▸ reached
    rw [← width] at answers
    generalize scanFrom (position + 4 + byteLength inner) [] after = result at answers ⊢
    cases result with
    | error error => exact Answers.of_move (show Answers source (byteLength before) _ (.error error) from answers) move closed
    | ok tokens =>
      subst here
      have tiled := answers.2.next (by rw [same, List.append_assoc]) oneLine found clean
      exact Answers.of_move (show Answers source _ _ (.ok _) from ⟨answers.1, tiled⟩) move closed

theorem Token.scan_answers (source : String) : Answers source.toList 0 0 (scan source) :=
  @scanFrom_answers source.toList [] 0 [] source.toList rfl rfl fun _ _ reached => reached

/-- The content of a token is what its span covers: the plain text, or the trimmed text between the marks. -/
def Token.Faithful (source : String) : Token → Prop
  | text content span => span.slice? source = some content
  | tag _ content span contentSpan =>
    (∃ inner, (Span.mk (span.start + 2) (span.stop - 2)).slice? source = some inner ∧
      content = String.ofList (trim inner.toList)) ∧
    contentSpan.slice? source = some content ∧
    span.start + 2 ≤ contentSpan.start ∧ contentSpan.start ≤ contentSpan.stop ∧ contentSpan.stop + 2 ≤ span.stop

theorem Token.Placed.faithful {source : String} {token : Token} (placed : token.Placed source.toList) :
    token.Faithful source := by
  cases placed with
  | text split _ => exact Span.slice?_of_split split
  | @tag before inner after kind split _ =>
    obtain ⟨tail, -, blanks⟩ := Text.trim_split inner
    have width : byteLength inner =
        byteLength (inner.takeWhile isBlank) + byteLength (trim inner) + byteLength tail := by
      conv => lhs; rw [blanks]
      rw [Text.byteLength_append, Text.byteLength_append]
    have opened : byteLength (before ++ kind.openText.toList) = byteLength before + 2 := by
      rw [Text.byteLength_append, kind.byteLength_openText]
    refine ⟨⟨String.ofList inner, ?_, by rw [String.toList_ofList]⟩, ?_, ?_⟩
    · have slice := @Span.slice?_of_split source (before ++ kind.openText.toList) inner
        (kind.closeText.toList ++ after) (by rw [split]; simp only [List.append_assoc])
      rw [opened] at slice
      convert slice using 2
      simp only [Span.mk.injEq, true_and]
      omega
    · have slice := @Span.slice?_of_split source
        (before ++ kind.openText.toList ++ inner.takeWhile isBlank) (trim inner)
        (tail ++ (kind.closeText.toList ++ after)) (by
          rw [split]
          conv => lhs; rw [blanks]
          simp only [List.append_assoc])
      rw [Text.byteLength_append, opened] at slice
      exact slice
    · simp only [Span.ofLength]
      omega

theorem Token.faithful_of_scan {source : String} {tokens : List Token} (scanned : scan source = .ok tokens) :
    ∀ token ∈ tokens, token.Faithful source := by
  have answers := scan_answers source
  rw [scanned] at answers
  exact fun token member => (answers.2.placed token member).faithful

/-- Reading a source into tokens fails just where the scan comes to an opening mark that is never closed, and
tells the first of them. Otherwise the tags are the leftmost matches, plain text fills the gaps between them, and
every token holds what its span covers. -/
theorem Token.scan_tiles (source : String) :
    ((∃ tokens, scan source = .ok tokens) ↔
      ∀ kind position, Reaches source.toList 0 position → ¬Unclosed source.toList kind position) ∧
    (∀ error, scan source = .error error ↔
      ∃ kind position, FirstUnclosed source.toList 0 kind position ∧
        error = .unclosedTag kind ⟨position, position + 2⟩) ∧
    ∀ tokens, scan source = .ok tokens →
      Tiled source.toList 0 tokens ∧ ∀ token ∈ tokens, token.Faithful source := by
  have answers := scan_answers source
  cases result : scan source with
  | ok tokens =>
    rw [result] at answers
    obtain ⟨closed, tiled⟩ := answers
    refine ⟨⟨fun _ => closed, fun _ => ⟨tokens, rfl⟩⟩, fun error => ⟨nofun, ?_⟩, fun other same => ?_⟩
    · rintro ⟨kind, position, found, -⟩
      exact absurd found.unclosed (closed kind position found.reached)
    · cases same
      exact ⟨tiled, faithful_of_scan result⟩
  | error error =>
    rw [result] at answers
    obtain ⟨kind, position, found, rfl⟩ := answers
    refine ⟨⟨nofun, fun closed => ?_⟩, fun other => ⟨?_, ?_⟩, nofun⟩
    · exact absurd found.unclosed (closed kind position found.reached)
    · rintro same
      cases same
      exact ⟨kind, position, found, rfl⟩
    · rintro ⟨kind', position', also, rfl⟩
      obtain ⟨rfl, rfl⟩ := found.unique also
      rfl

example : Token.scan "\x7b\x7b a\n \x7b\x7b b \x7d\x7d!" =
    .ok [.text "\x7b\x7b a\n " ⟨0, 6⟩, .tag .variable "b" ⟨6, 13⟩ ⟨9, 10⟩, .text "!" ⟨13, 14⟩] := by
  decide +kernel

end Stencil.Template
