import Stencil.Fixture.Filters
import Stencil.Proofs.Loading
import Stencil.Proofs.Location
import Stencil.Proofs.Tiling
import Stencil.Template

/-! What the spans of a template and of a failure to read one cover, from the source down to single words. -/

set_option autoImplicit false

namespace Stencil.Template

open Text (byteLength StandsAt isBlank trim)

def Delimiter.around (kind : Delimiter) (inner : List Char) : String :=
  kind.openText ++ String.ofList inner ++ kind.closeText

/-- The span of a node reads back its text, or a tag with its marks, and those inside it read back theirs. -/
def Node.Located (source : String) : Node → Prop
  | .text content span => span.Reads source content
  | .variable e span => (∃ inner, span.Reads source (Delimiter.variable.around inner) ∧
      e.token = String.ofList (trim inner)) ∧ e.Located source
  | .load _ span => ∃ inner, span.Reads source (Delimiter.block.around inner)

/-- The span of an error reads back what the error is about, and its line is the one of that span. -/
def ParseError.Located (source : String) : ParseError → Prop
  | unclosedTag kind span => span.Reads source kind.openText
  | emptyVariable line span => line = lineOf source span ∧
      ∃ blanks, (∀ c ∈ blanks, isBlank c = true) ∧ span.Reads source (Delimiter.variable.around blanks)
  | emptyTag line span => line = lineOf source span ∧
      ∃ blanks, (∀ c ∈ blanks, isBlank c = true) ∧ span.Reads source (Delimiter.block.around blanks)
  | unknownTag tag line span => line = lineOf source span ∧ span.Reads source tag
  | missingVariable fragment span | invalidRemainder fragment _ span | underscoreName fragment span
  | unknownLibrary fragment _ span | notInLibrary fragment _ span | unknownFilter fragment span =>
    span.Reads source fragment
  | filterArity filter _ provided span => ∃ argument : Option (List Char),
      provided = 1 + argument.toList.length ∧ (∀ text ∈ argument, IsOperand text) ∧
      span.Reads source (filter ++ String.ofList (argumentText argument))

section
variable {source : String} {registry : Registry} {position : Nat} {error : ParseError}

theorem Operand.error_located {text : List Char} (stands : StandsAt source.toList position text)
    (failed : ofText text position = .error error) : error.Located source := by
  rw [ofText_error failed]
  exact Span.reads_of_standsAt stands

theorem FilterUse.error_located {f : FilterText} (stands : StandsAt source.toList position f.text)
    (formed : f.WellFormed) (failed : ofText registry position f = .error error) : error.Located source := by
  rcases ofText_error failed with rfl | ⟨text, argument, failed⟩ | ⟨required, rfl⟩
  · rw [FilterText.text] at stands
    exact Span.reads_of_standsAt stands.left.right
  · exact Operand.error_located (FilterText.argument_stands stands argument) failed
  · refine ⟨f.argument, rfl, formed.argument, ?_⟩
    rw [← String.ofList_append]
    exact FilterText.reads stands

theorem Expression.error_located {text : List Char} (stands : StandsAt source.toList position text)
    (failed : ofText registry text position = .error error) : error.Located source := by
  have whole := Span.reads_of_standsAt stands
  cases ofText_error failed with
  | missing => exact whole
  | nothing => exact whole
  | base cut failed =>
    rw [takeOperand_append cut] at stands
    exact Operand.error_located stands.left failed
  | filter cut failed =>
    obtain ⟨passed, f, left, split, formed, failed⟩ := readFilters_error failed
    rw [takeOperand_append cut, split] at stands
    exact FilterUse.error_located stands.right.right.left formed failed
  | @remainder base after rest operand uses cut _ readUses =>
    -- The remainder is the end of the text, so its start may be counted from either end.
    obtain ⟨-, left⟩ := readFilters_eq_ok_iff.mp readUses
    obtain ⟨split, -⟩ := cutFilters_sound after
    rw [← left] at split
    generalize (cutFilters after).1.flatMap FilterText.text = passed at split
    have width := congrArg byteLength (takeOperand_append cut)
    rw [takeOperand_append cut, split] at stands
    have reads := Span.reads_of_standsAt stands.right.right
    rw [split, Text.byteLength_append, Text.byteLength_append] at width
    have start : position + byteLength base + byteLength passed =
        position + byteLength text - byteLength rest := by omega
    have stop : position + byteLength text - byteLength rest + byteLength rest =
        position + byteLength text := by omega
    rw [start, stop] at reads
    exact reads

end

theorem lineOf_of_split {source : String} {before after : List Char} {stop : Nat}
    (split : source.toList = before ++ after) : lineOf source ⟨byteLength before, stop⟩ = before.count '\n' + 1 := by
  rw [lineOf, Span.lineColumn_of_split split, Span.positionAfter]

section
variable {source : String} {before inner after : List Char} {kind : Delimiter}
  (split : source.toList = before ++ (kind.openText.toList ++ (inner ++ (kind.closeText.toList ++ after))))
include split

theorem Token.tag_reads : (⟨byteLength before, byteLength before + 4 + byteLength inner⟩ : Span).Reads source
    (kind.around inner) := by
  have text : kind.around inner = String.ofList (kind.openText.toList ++ inner ++ kind.closeText.toList) := by
    rw [String.ofList_append, String.ofList_append, String.ofList_toList, String.ofList_toList, Delimiter.around]
  have width : byteLength before + 4 + byteLength inner =
      byteLength before + byteLength (kind.openText.toList ++ inner ++ kind.closeText.toList) := by
    simp only [Text.byteLength_append, kind.byteLength_openText, kind.byteLength_closeText]
    omega
  rw [text, width]
  exact Span.reads_of_standsAt ⟨before, after, by rw [split]; simp only [List.append_assoc], rfl⟩

theorem Token.content_stands :
    StandsAt source.toList (byteLength before + 2 + byteLength (inner.takeWhile isBlank)) (trim inner) := by
  obtain ⟨tail, -, blanks⟩ := Text.trim_split inner
  refine ⟨before ++ kind.openText.toList ++ inner.takeWhile isBlank, tail ++ (kind.closeText.toList ++ after), ?_, ?_⟩
  · rw [split]
    conv => lhs; rw [blanks]
    simp only [List.append_assoc]
  · rw [Text.byteLength_append, Text.byteLength_append, kind.byteLength_openText]

theorem Token.inner_stands : StandsAt source.toList (byteLength before + 2) inner :=
  ⟨before ++ kind.openText.toList, kind.closeText.toList ++ after, by rw [split]; simp only [List.append_assoc],
    by rw [Text.byteLength_append, kind.byteLength_openText]⟩

/-- A word of a tag stands on the line on which the tag starts. -/
theorem Token.line_of_word (oneLine : '\n' ∉ inner) {bit : Bit} (stands : bit.StandsIn inner (byteLength before + 2)) :
    lineOf source ⟨byteLength before, byteLength before + 4 + byteLength inner⟩ = lineOf source bit.span := by
  -- Neither the opening mark nor the text up to the word ends a line, so both starts count the same lines.
  obtain ⟨front, behind, rfl, span⟩ := stands
  have noMark : kind.openText.toList.count '\n' = 0 := by cases kind <;> decide
  have noEnd : front.count '\n' = 0 := List.count_eq_zero.mpr fun newline => oneLine (by simp [newline])
  have start : byteLength before + 2 + byteLength front =
      byteLength (before ++ (kind.openText.toList ++ front)) := by
    rw [Text.byteLength_append, Text.byteLength_append, kind.byteLength_openText, Nat.add_assoc]
  have inside : source.toList = before ++ (kind.openText.toList ++ front) ++
      (bit.text.toList ++ behind ++ (kind.closeText.toList ++ after)) := by
    rw [split]
    simp only [List.append_assoc]
  rw [span, start, lineOf_of_split split, lineOf_of_split inside, List.count_append, List.count_append, noMark, noEnd]

end

theorem Bit.StandsIn.reads {source : String} {bit : Bit} {text : List Char} {start : Nat}
    (stands : bit.StandsIn text start) (here : StandsAt source.toList start text) :
    bit.span.Reads source bit.text := by
  obtain ⟨before, after, rfl, span⟩ := stands
  have reads := Span.reads_of_standsAt here.left.right
  rwa [← span, String.ofList_toList] at reads

theorem Token.word_standsIn {inner : List Char} {start : Nat} {bit : Bit}
    (member : bit ∈ Bit.split (String.ofList (trim inner)) (start + byteLength (inner.takeWhile isBlank))) :
    bit.StandsIn inner start := by
  obtain ⟨tail, -, blanks⟩ := Text.trim_split inner
  have stands := Bit.split_standsIn _ _ bit member
  rw [String.toList_ofList] at stands
  rw [blanks]
  exact stands.behind.append tail

theorem blank_of_trim {inner : List Char} (blank : ∀ c ∈ trim inner, isBlank c = true) :
    ∀ c ∈ inner, isBlank c = true := by
  obtain ⟨tail, behind, blanks⟩ := Text.trim_split inner
  rw [blanks]
  exact List.forall_mem_append.mpr
    ⟨List.forall_mem_append.mpr ⟨fun c member => List.mem_takeWhile_imp member, blank⟩, behind⟩

/-- The nodes that were read, or the error with which reading failed, cover what they are about. -/
def Faithful {α : Type} (source : String) (nodes : α → List Node) : Except ParseError α → Prop
  | .ok result => ∀ node ∈ nodes result, node.Located source
  | .error error => error.Located source

section
variable (catalog : Catalog) {source : String}

theorem readBlock_faithful (registry : Registry) {before inner after : List Char}
    (split : source.toList = before ++ (Delimiter.block.openText.toList ++
      (inner ++ (Delimiter.block.closeText.toList ++ after)))) (oneLine : '\n' ∉ inner) :
    Faithful source (fun result => [result.1]) (readBlock catalog source registry (String.ofList (trim inner))
      ⟨byteLength before, byteLength before + 4 + byteLength inner⟩
      (.ofLength (byteLength before + 2 + byteLength (inner.takeWhile isBlank)) (byteLength (trim inner)))) := by
  have whole := Token.tag_reads split
  have word : ∀ bit ∈ Bit.split (String.ofList (trim inner))
      (byteLength before + 2 + byteLength (inner.takeWhile isBlank)),
      bit.span.Reads source bit.text ∧ lineOf source ⟨byteLength before, byteLength before + 4 + byteLength inner⟩ =
        lineOf source bit.span := by
    intro bit member
    have stands := Token.word_standsIn member
    exact ⟨stands.reads (Token.inner_stands split), Token.line_of_word split oneLine stands⟩
  unfold readBlock
  simp only [Span.ofLength]
  cases words : Bit.split (String.ofList (trim inner))
      (byteLength before + 2 + byteLength (inner.takeWhile isBlank)) with
  | nil =>
    obtain ⟨-, blank⟩ := Bit.splitFrom_eq_nil words
    rw [String.toList_ofList] at blank
    exact ⟨rfl, inner, blank_of_trim blank, whole⟩
  | cons command arguments =>
    rw [words] at word
    obtain ⟨first, others⟩ := List.forall_mem_cons.mp word
    by_cases load : command.text = "load"
    · simp only [if_pos load]
      cases outcome : Load.ofBits catalog registry arguments with
      | ok result => exact fun node member => List.mem_singleton.mp member ▸ ⟨inner, whole⟩
      | error error =>
        obtain ⟨bit, member, ⟨available, rfl⟩ | ⟨asked, rfl⟩⟩ := Load.ofBits_error outcome
        · exact (others bit member).1
        · exact (others bit member).1
    · simp only [if_neg load]
      exact ⟨first.2, first.1⟩

theorem readToken_faithful (registry : Registry) {token : Token} (placed : token.Placed source.toList) :
    Faithful source (fun result => result.1.toList) (readToken catalog source registry token) := by
  cases placed with
  | @text before content after split some_ =>
    exact List.forall_mem_singleton.mpr (Span.reads_of_standsAt ⟨before, after, split, rfl⟩)
  | @tag before inner after kind split oneLine =>
    cases kind with
    | comment =>
      intro node member
      cases member
    | block =>
      have answered := readBlock_faithful catalog registry split oneLine
      rw [Token.ofTag, readToken]
      simp only
      generalize readBlock catalog source registry _ _ _ = outcome at answered ⊢
      cases outcome with
      | ok result => exact answered
      | error error => exact answered
    | «variable» =>
      have whole := Token.tag_reads split
      have stands := Token.content_stands split
      rw [Token.ofTag, readToken]
      simp only [Span.ofLength]
      by_cases empty : (String.ofList (trim inner)).isEmpty
      · rw [if_pos empty]
        have none : trim inner = [] := by simpa using empty
        have blank : ∀ c ∈ trim inner, isBlank c = true := by simp [none]
        exact ⟨rfl, inner, blank_of_trim blank, whole⟩
      · rw [if_neg empty, String.toList_ofList]
        cases outcome : Expression.ofText registry (trim inner) _ with
        | error error => exact Expression.error_located stands outcome
        | ok e =>
          obtain ⟨base, filters, read⟩ := Expression.ofText_eq_ok_iff.mp outcome
          exact List.forall_mem_singleton.mpr ⟨⟨inner, whole, read.token⟩, Expression.located stands outcome⟩

theorem readTokens_faithful (registry : Registry) {tokens : List Token}
    (placed : ∀ token ∈ tokens, token.Placed source.toList) :
    Faithful source Prod.fst (readTokens catalog source registry tokens) := by
  induction tokens generalizing registry with
  | nil => exact nofun
  | cons token tokens ih =>
    obtain ⟨here, rest⟩ := List.forall_mem_cons.mp placed
    have first := readToken_faithful catalog registry here
    rw [readTokens]
    cases outcome : readToken catalog source registry token with
    | error error =>
      rw [outcome] at first
      exact first
    | ok result =>
      obtain ⟨node, scope⟩ := result
      rw [outcome] at first
      have later := ih scope rest
      simp only [bind, Except.bind]
      generalize readTokens catalog source scope tokens = outcome at later ⊢
      cases outcome with
      | error error => exact later
      | ok result => exact List.forall_mem_append.mpr ⟨first, later⟩

end

/-- The span of a failure covers what the failure is about, unless a builtin library is unknown, which is told at the
start of the source. -/
theorem parse_error_located {catalog : Catalog} {builtins : List String} {source : String} {error : ParseError}
    (failed : parse catalog builtins source = .error error) :
    (∃ name ∈ builtins, catalog.find? name = none ∧
      ∃ available, error = .unknownLibrary name available ⟨0, 0⟩) ∨ error.Located source := by
  have answers := Token.scan_answers source
  rcases Outcome.bind_eq_error.mp failed with failed | ⟨registry, -, failed⟩
  · obtain ⟨bit, member, none, available, rfl⟩ := loadLibraries_error failed
    obtain ⟨name, builtin, rfl⟩ := List.mem_map.mp member
    exact Or.inl ⟨name, builtin, none, available, rfl⟩
  · rcases Outcome.bind_eq_error.mp failed with failed | ⟨tokens, scanned, failed⟩
    · rw [failed] at answers
      obtain ⟨kind, opening, found, rfl⟩ := answers
      have reads := Span.reads_of_standsAt found.unclosed.opens
      rw [kind.byteLength_openText, String.ofList_toList] at reads
      exact Or.inr reads
    · rw [scanned] at answers
      have faithful := readTokens_faithful catalog registry answers.2.placed
      rcases Outcome.bind_eq_error.mp failed with failed | ⟨result, -, done⟩
      · rw [failed] at faithful
        exact Or.inr faithful
      · cases done

/-- Every span of a template that was read covers, in bounds and between characters, what it is the span of. The
span of a failure covers what the failure is about, and a line told with it is the line of that span, unless a
builtin library is unknown, which is told at the start of the source. -/
theorem parse_faithful (catalog : Catalog) (builtins : List String) (source : String) :
    (∀ template, parse catalog builtins source = .ok template → ∀ node ∈ template.nodes, node.Located source) ∧
    ∀ error, parse catalog builtins source = .error error →
      (∃ name ∈ builtins, catalog.find? name = none ∧
        ∃ available, error = .unknownLibrary name available ⟨0, 0⟩) ∨ error.Located source := by
  refine ⟨fun template done => ?_, fun _ => parse_error_located⟩
  have answers := Token.scan_answers source
  obtain ⟨registry, -, done⟩ := Outcome.bind_eq_ok.mp done
  obtain ⟨tokens, scanned, done⟩ := Outcome.bind_eq_ok.mp done
  obtain ⟨⟨nodes, scope⟩, read, done⟩ := Outcome.bind_eq_ok.mp done
  rw [scanned] at answers
  have faithful := readTokens_faithful catalog registry answers.2.placed
  rw [read] at faithful
  cases done
  exact faithful

/-- A load tag and a filtered path of letters of two bytes, and a failure in the second line. -/
theorem parse_faithful_multibyte :
    let catalog := Fixture.libraries.catalog
    let source := "é\n\x7b% load cut from custom_filters %\x7d\x7b\x7b ü.ß|cut:'é' \x7d\x7d"
    let misspelt := "é\n\x7b% lod x %\x7d"
    let error := ParseError.unknownTag "lod" 2 ⟨6, 9⟩
    (∃ template, parse catalog [] source = .ok template ∧
      template.nodes.map Node.span = [⟨0, 3⟩, ⟨3, 37⟩, ⟨37, 57⟩] ∧ ∀ node ∈ template.nodes, node.Located source) ∧
    parse catalog [] misspelt = .error error ∧ error.Located misspelt := by
  intro catalog source misspelt error
  have read : (parse catalog [] source).toOption.map (fun template => template.nodes.map Node.span) =
      some [⟨0, 3⟩, ⟨3, 37⟩, ⟨37, 57⟩] := by decide +kernel
  obtain ⟨template, parsed, spans⟩ := Option.map_eq_some_iff.mp read
  have done : parse catalog [] source = .ok template := Outcome.of_toOption parsed
  have failed : parse catalog [] misspelt = .error error := Outcome.of_map_error (fun _ => ()) (by decide +kernel)
  have located : error.Located misspelt := by
    rcases (parse_faithful catalog [] misspelt).2 error failed with ⟨_, none, _⟩ | located
    · cases none
    · exact located
  exact ⟨⟨template, done, spans, (parse_faithful catalog [] source).1 template done⟩, failed, located⟩

end Stencil.Template
