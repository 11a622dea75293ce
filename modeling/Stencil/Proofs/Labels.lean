import Stencil.Proofs.Blame
import Stencil.Proofs.Excerpts

/-! Where the labels of an error start: at a character of a tag or of a name in one, which is on one line and no line
end. -/

set_option autoImplicit false

namespace Stencil

open Excerpt (OnLine)
open Text (byteLength Paired StandsAt isBlank trim)

namespace Text

theorem Paired.feed {before after : List Char} (paired : Paired (before ++ '\r' :: after)) :
    after.head? = some '\n' := by
  generalize text : before ++ '\r' :: after = cs at paired
  induction paired generalizing before with
  | nil => exact absurd text (by simp)
  | pair paired ih =>
    rcases before with _ | ⟨d, _ | ⟨e, before⟩⟩
    · cases text
      rfl
    · cases text
    · cases text
      exact ih rfl
  | other plain paired ih =>
    rcases before with _ | ⟨d, before⟩
    · cases text
      exact absurd rfl plain
    · cases text
      exact ih rfl

/-- Only a line feed stands behind a carriage return. -/
theorem Paired.not_return {before after : List Char} {c : Char} (paired : Paired (before ++ c :: after))
    (other : c ≠ '\n') : before.getLast? ≠ some '\r' := by
  intro last
  obtain ⟨front, rfl⟩ := List.getLast?_eq_some_iff.mp last
  rw [List.append_assoc] at paired
  exact other (Option.some.inj paired.feed)

/-- A piece that stands between the ends of a text is a piece of the text. -/
theorem StandsAt.within {before text after piece : List Char} {position : Nat}
    (stands : StandsAt (before ++ text ++ after) position piece) (begins : byteLength before ≤ position)
    (stops : position + byteLength piece ≤ byteLength before + byteLength text) :
    ∃ front back, text = front ++ piece ++ back ∧ position = byteLength before + byteLength front := by
  obtain ⟨first, last, split, rfl⟩ := stands
  rw [List.append_assoc, List.append_assoc] at split
  obtain ⟨front, rfl⟩ := prefix_of_byteLength_le split begins
  rw [List.append_assoc, List.append_cancel_left_eq, ← List.append_assoc] at split
  rw [byteLength_append] at stops
  obtain ⟨back, rfl⟩ := prefix_of_byteLength_le split.symm (by rw [byteLength_append]; omega)
  exact ⟨front, back, rfl, byteLength_append before front⟩

end Text

namespace Template

/-- An error is about something in a text that stands at a position, or at its end. -/
def ParseError.PointsInto (error : ParseError) (text : List Char) (position : Nat) : Prop :=
  ∃ front back, text = front ++ back ∧ error.span.start = position + byteLength front

section
variable {error : ParseError} {position : Nat} {text : List Char}

theorem ParseError.PointsInto.append (points : error.PointsInto text position) (more : List Char) :
    error.PointsInto (text ++ more) position := by
  obtain ⟨front, back, rfl, start⟩ := points
  exact ⟨front, back ++ more, List.append_assoc _ _ _, start⟩

theorem ParseError.PointsInto.behind {before : List Char}
    (points : error.PointsInto text (position + byteLength before)) : error.PointsInto (before ++ text) position := by
  obtain ⟨front, back, rfl, start⟩ := points
  exact ⟨before ++ front, back, (List.append_assoc _ _ _).symm, by rw [start, Text.byteLength_append, Nat.add_assoc]⟩

theorem Operand.error_points (failed : ofText text position = .error error) : error.PointsInto text position := by
  rw [ofText_error failed]
  exact ⟨[], text, rfl, rfl⟩

variable {registry : Registry}

theorem FilterUse.error_points {f : FilterText} (failed : ofText registry position f = .error error) :
    error.PointsInto f.text position := by
  rcases ofText_error failed with rfl | ⟨argument, given, failed⟩ | ⟨required, rfl⟩
  · exact ⟨f.lead, f.name ++ argumentText f.argument, by rw [FilterText.text, List.append_assoc], rfl⟩
  · have width : byteLength (f.lead ++ f.name ++ [':']) = byteLength f.lead + byteLength f.name + 1 := by
      rw [Text.byteLength_append, Text.byteLength_append]
      rfl
    rw [FilterText.argumentStart, Nat.add_assoc, Nat.add_assoc, ← Nat.add_assoc (byteLength f.lead), ← width] at failed
    have points := (Operand.error_points failed).behind
    rwa [List.append_assoc, List.singleton_append, ← argumentText, ← given, ← FilterText.text] at points
  · exact ⟨f.lead, f.name ++ argumentText f.argument, by rw [FilterText.text, List.append_assoc], rfl⟩

theorem Expression.error_points (failed : ofText registry text position = .error error) :
    error.PointsInto text position := by
  cases ofText_error failed with
  | missing => exact ⟨[], text, rfl, rfl⟩
  | nothing => exact ⟨[], text, rfl, rfl⟩
  | base cut failed =>
    rw [takeOperand_append cut]
    exact (Operand.error_points failed).append _
  | filter cut failed =>
    obtain ⟨passed, f, left, split, -, failed⟩ := readFilters_error failed
    rw [takeOperand_append cut, split]
    exact ((FilterUse.error_points failed).append left).behind.behind
  | @remainder base after rest operand uses cut _ readUses =>
    obtain ⟨-, left⟩ := readFilters_eq_ok_iff.mp readUses
    obtain ⟨split, -⟩ := cutFilters_sound after
    rw [← left] at split
    have width := congrArg byteLength (takeOperand_append cut)
    -- The remainder is the end of the text, so its start is counted from there.
    refine ⟨base ++ (cutFilters after).1.flatMap FilterText.text, rest, ?_, ?_⟩
    · rw [takeOperand_append cut, List.append_assoc, ← split]
    · rw [split] at width
      simp only [Text.byteLength_append, ParseError.span] at width ⊢
      omega

end

/-- An error starts at a character that ends no line. -/
def ParseError.Starts (source : String) (error : ParseError) : Prop :=
  ∃ c, c ≠ '\n' ∧ StandsAt source.toList error.span.start [c]

section
variable {source : String} {before inner after : List Char} {kind : Delimiter} {error : ParseError}
  (split : source.toList = before ++ (kind.openText.toList ++ (inner ++ (kind.closeText.toList ++ after))))
  (oneLine : '\n' ∉ inner)
include split oneLine

/-- Behind every point of a tag, up to the closing mark, one of its characters stands. -/
theorem Token.starts_of_points (points : error.PointsInto (kind.openText.toList ++ inner) (byteLength before)) :
    error.Starts source := by
  obtain ⟨front, back, cut, start⟩ := points
  -- At the end of what is inside, the closing mark is still to come.
  obtain ⟨c, rest, next⟩ : ∃ c rest, back ++ kind.closeText.toList = c :: rest :=
    List.exists_cons_of_ne_nil (by cases kind <;> exact List.append_ne_nil_of_right_ne_nil _ (by decide))
  refine ⟨c, ?_, before ++ front, rest ++ after, ?_, by rw [start, Text.byteLength_append]⟩
  · rintro rfl
    have member : '\n' ∈ kind.openText.toList ++ inner ++ kind.closeText.toList := by
      rw [cut, List.append_assoc, next]
      simp
    have marks : '\n' ∉ kind.openText.toList ∧ '\n' ∉ kind.closeText.toList := by cases kind <;> decide
    exact absurd member (List.not_mem_append (List.not_mem_append marks.1 oneLine) marks.2)
  · have more : back ++ (kind.closeText.toList ++ after) = c :: (rest ++ after) := by
      rw [← List.append_assoc, next, List.cons_append]
    rw [split, ← List.append_assoc kind.openText.toList, cut]
    simp only [List.append_assoc, more, List.singleton_append]

theorem Token.starts_of_content (points : error.PointsInto (trim inner)
    (byteLength before + 2 + byteLength (inner.takeWhile isBlank))) : error.Starts source := by
  obtain ⟨tail, -, blanks⟩ := Text.trim_split inner
  have inside : error.PointsInto inner (byteLength before + byteLength kind.openText.toList) := by
    rw [kind.byteLength_openText, blanks, List.append_assoc]
    exact (points.append tail).behind
  exact Token.starts_of_points split oneLine inside.behind

end

theorem readBlock_starts {catalog : Catalog} {source : String} {registry : Registry} {before inner after : List Char}
    {error : ParseError} (split : source.toList = before ++ (Delimiter.block.openText.toList ++
      (inner ++ (Delimiter.block.closeText.toList ++ after)))) (oneLine : '\n' ∉ inner)
    (failed : readBlock catalog source registry (String.ofList (trim inner))
      ⟨byteLength before, byteLength before + 4 + byteLength inner⟩
      (.ofLength (byteLength before + 2 + byteLength (inner.takeWhile isBlank)) (byteLength (trim inner))) =
        .error error) : error.Starts source := by
  have word : ∀ bit ∈ Bit.split (String.ofList (trim inner))
      (byteLength before + 2 + byteLength (inner.takeWhile isBlank)), error.span = bit.span → error.Starts source := by
    intro bit member same
    obtain ⟨front, back, cut, span⟩ := Token.word_standsIn member
    have inside : error.PointsInto inner (byteLength before + byteLength Delimiter.block.openText.toList) :=
      ⟨front, bit.text.toList ++ back, by rw [cut, List.append_assoc], by rw [same, span]; rfl⟩
    exact Token.starts_of_points split oneLine inside.behind
  have whole (same : error.span.start = byteLength before) : error.Starts source :=
    Token.starts_of_points split oneLine ⟨[], _, rfl, same⟩
  unfold readBlock at failed
  simp only [Span.ofLength] at failed
  cases words : Bit.split (String.ofList (trim inner))
      (byteLength before + 2 + byteLength (inner.takeWhile isBlank)) with
  | nil =>
    rw [words] at failed
    cases failed
    exact whole rfl
  | cons command arguments =>
    rw [words] at failed word
    obtain ⟨first, others⟩ := List.forall_mem_cons.mp word
    by_cases load : command.text = "load"
    · simp only [if_pos load] at failed
      rcases Outcome.bind_eq_error.mp failed with failed | ⟨result, -, done⟩
      · obtain ⟨bit, member, ⟨available, rfl⟩ | ⟨asked, rfl⟩⟩ := Load.ofBits_error failed
        · exact others bit member rfl
        · exact others bit member rfl
      · cases done
    · simp only [if_neg load] at failed
      cases failed
      exact first rfl

section
variable {catalog : Catalog} {builtins : List String} {source : String} {registry : Registry} {error : ParseError}

theorem readToken_starts {token : Token} (placed : token.Placed source.toList)
    (failed : readToken catalog source registry token = .error error) : error.Starts source := by
  cases placed with
  | text => cases failed
  | @tag before inner after kind split oneLine =>
    cases kind with
    | comment => cases failed
    | block =>
      rcases Outcome.bind_eq_error.mp failed with failed | ⟨result, -, done⟩
      · exact readBlock_starts split oneLine failed
      · cases done
    | «variable» =>
      rw [Token.ofTag, readToken] at failed
      split at failed
      next =>
        cases failed
        exact Token.starts_of_points split oneLine ⟨[], _, rfl, rfl⟩
      next =>
        rcases Outcome.bind_eq_error.mp failed with failed | ⟨result, -, done⟩
        · rw [String.toList_ofList] at failed
          exact Token.starts_of_content split oneLine (Expression.error_points failed)
        · cases done

theorem readTokens_starts {tokens : List Token} (placed : ∀ token ∈ tokens, token.Placed source.toList)
    (failed : readTokens catalog source registry tokens = .error error) : error.Starts source := by
  induction tokens generalizing registry with
  | nil => cases failed
  | cons token tokens ih =>
    obtain ⟨here, rest⟩ := List.forall_mem_cons.mp placed
    rcases Outcome.bind_eq_error.mp failed with failed | ⟨⟨node, scope⟩, -, failed⟩
    · exact readToken_starts here failed
    · rcases Outcome.bind_eq_error.mp failed with failed | ⟨result, -, done⟩
      · exact ih rest failed
      · cases done

/-- A source that cannot be read fails at the name of a builtin library, which stands nowhere in it, or at one of
its characters. -/
theorem parse_starts (failed : parse catalog builtins source = .error error) :
    error.span = ⟨0, 0⟩ ∨ error.Starts source := by
  have answers := Token.scan_answers source
  rcases Outcome.bind_eq_error.mp failed with failed | ⟨registry, -, failed⟩
  · obtain ⟨bit, member, -, available, rfl⟩ := loadLibraries_error failed
    obtain ⟨name, -, rfl⟩ := List.mem_map.mp member
    exact Or.inl rfl
  · rcases Outcome.bind_eq_error.mp failed with failed | ⟨tokens, scanned, failed⟩
    · rw [failed] at answers
      obtain ⟨kind, opening, found, rfl⟩ := answers
      have mark : kind.openText.toList = ['\x7b'] ++ [kind.opening] := by cases kind <;> rfl
      exact Or.inr ⟨'\x7b', by decide, (mark ▸ found.unclosed.opens).left⟩
    · rw [scanned] at answers
      rcases Outcome.bind_eq_error.mp failed with failed | ⟨result, -, done⟩
      · exact Or.inr (readTokens_starts answers.2.placed failed)
      · cases done

end

section
variable {source : String} {text : List Char} {position : Nat}

/-- A piece of a variable, be it empty, starts on the line of the variable. -/
theorem onLine_of_piece {before after piece : List Char} {start : Nat} (paired : Paired source.toList)
    (split : source.toList = before ++ text ++ after) (more : after ≠ []) (variable_ : IsVariable text)
    (stands : StandsAt source.toList start piece) (begins : byteLength before ≤ start)
    (stops : start + byteLength piece ≤ byteLength before + byteLength text) :
    OnLine source.toList (before.count '\n') start (byteLength piece) := by
  have inside := stands.le
  obtain ⟨front, back, rfl, rfl⟩ := (split ▸ stands).within begins stops
  have feeds : '\n' ∉ front ++ piece ++ back := variable_.not_mem_of_isBlank (by decide)
  have returns : '\r' ∉ front ++ piece ++ back := variable_.not_mem_of_isBlank (by decide)
  obtain ⟨c, rest, next⟩ := List.exists_cons_of_ne_nil (List.append_ne_nil_of_right_ne_nil (piece ++ back) more)
  have here : source.toList = (before ++ front) ++ c :: rest := by
    rw [split, ← next]
    simp only [List.append_assoc]
  refine ⟨before ++ front, c, rest, here, Text.byteLength_append _ _, ?_, ?_, inside⟩
  · have none : front.count '\n' = 0 := List.count_eq_zero.mpr fun newline => feeds (by simp [newline])
    rw [List.count_append, none, Nat.add_zero]
  · rcases List.eq_nil_or_concat front with rfl | ⟨init, d, rfl⟩
    · -- The variable itself starts here, with a character that ends no line.
      apply Text.Paired.not_return (here ▸ paired)
      rintro rfl
      obtain ⟨d, tail, first⟩ := List.exists_cons_of_ne_nil variable_.ne_nil
      rw [List.nil_append] at first
      rw [first, List.cons_append] at next
      exact feeds (by simp [first, (List.cons.inj next).1])
    · rw [List.concat_eq_append, ← List.append_assoc, List.getLast?_concat]
      intro same
      exact returns (by simp [Option.some.inj same])

theorem Path.Blamed.on_line {context : Context} {key object : String} {labels : List Label}
    (paired : Paired source.toList) (stands : StandsAt source.toList position text) (more : position + byteLength text < byteLength source.toList)
    (variable_ : IsVariable text) (blamed : (Path.ofText text position).Blamed source context key object labels) :
    ∃ ends, ∀ label ∈ labels, OnLine source.toList ends label.span.start label.span.length := by
  have names := layOut_located ((Text.intercalate_splitOn '.' text).symm ▸ stands)
  obtain ⟨before, after, split, rfl⟩ := stands
  have left : after ≠ [] := by
    rintro rfl
    rw [split, List.append_nil, Text.byteLength_append] at more
    exact Nat.lt_irrefl _ more
  have piece {span : Span} {name : String} (stands : StandsAt source.toList span.start name.toList ∧
      span.stop = span.start + byteLength name.toList) (begins : byteLength before ≤ span.start)
      (stops : span.stop ≤ byteLength before + byteLength text) :
      OnLine source.toList (before.count '\n') span.start span.length := by
    have length : span.length = byteLength name.toList := by
      rw [Span.length, stands.2, Nat.add_sub_cancel_left]
    rw [length]
    exact onLine_of_piece paired split left variable_ stands.1 begins (stands.2 ▸ stops)
  refine ⟨before.count '\n', ?_⟩
  cases blamed with
  | @first segment rest segments named start =>
    have reads := names segment (show segment ∈ (Path.ofText text (byteLength before)).segments by rw [segments]; simp)
    refine List.forall_mem_singleton.mpr (piece reads.standsAt (Nat.le_of_eq start.symm) ?_)
    exact @segment_stop_le (byteLength before) text [] rest segment segments
  | @later front' behind' segment front value segments some_ named start whole behind =>
    have reads := names segment (show segment ∈ (Path.ofText text (byteLength before)).segments by rw [segments]; simp)
    have stop := segment_stop_le segments
    have covers := Span.standsAt_of_slice? whole
    have begins : byteLength before ≤ front.start := Nat.le_of_eq start.symm
    have ordered := reads.ordered
    have stopped := covers.2
    have later : byteLength before ≤ segment.span.start := by omega
    have earlier : front.stop ≤ byteLength before + byteLength text := by omega
    exact List.forall_mem_cons.mpr
      ⟨piece reads.standsAt later stop, List.forall_mem_singleton.mpr (piece covers begins earlier)⟩

end

end Template

end Stencil
