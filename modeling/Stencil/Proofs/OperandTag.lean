import Stencil.Proofs.Prelude

/-! A source that is one tag around an operand, and the template it is read as. -/

set_option autoImplicit false

namespace Stencil.Template

open Text (byteLength isBlank splitAtPair trim)

/-- A source that is one variable tag has one token. -/
theorem Token.scan_variable {inner : List Char} (closed : ¬['\x7d', '\x7d'] <:+: inner ++ ['\x7d'])
    (oneLine : '\n' ∉ inner) {source : String}
    (written : source.toList = '\x7b' :: '\x7b' :: (inner ++ ['\x7d', '\x7d'])) :
    scan source = .ok [.ofTag .variable 0 inner] := by
  have cut : splitAtPair '\x7d' '\x7d' (inner ++ ['\x7d', '\x7d']) = some (inner, []) :=
    Text.splitAtPair_behind closed []
  rw [scan, written]
  refine (scanFrom_tag .variable cut oneLine).trans ?_
  simp [scanFrom, ofText, bind, Except.bind, pure, Except.pure]

theorem isBlank_mark {quote : Char} (mark : quote = '"' ∨ quote = '\'') : isBlank quote = false := by
  rcases mark with rfl | rfl <;> rfl

/-- An operand neither starts nor ends with a blank. -/
theorem IsOperand.solid {text : List Char} (formed : IsOperand text) : ∃ first tail, text = first :: tail ∧
    isBlank first = false ∧ ∀ last, text.getLast? = some last → isBlank last = false := by
  rcases formed with ⟨quote, body, mark, -, rfl⟩ | variable_
  · refine ⟨quote, body ++ [quote], rfl, isBlank_mark mark, fun last found => ?_⟩
    rw [← List.cons_append, List.getLast?_concat] at found
    cases found
    exact isBlank_mark mark
  · have unblank {c : Char} (member : c ∈ text) : isBlank c = false :=
      Bool.eq_false_iff.mpr fun blank => variable_.not_mem_of_isBlank blank member
    obtain ⟨first, tail, rfl⟩ := List.exists_cons_of_ne_nil variable_.ne_nil
    exact ⟨first, tail, rfl, unblank List.mem_cons_self, fun last found => unblank (List.mem_of_getLast? found)⟩

section
variable {word : String} {operand : Operand} (formed : IsOperand word.toList)
include formed

theorem trim_operand : trim (' ' :: (word.toList ++ [' '])) = word.toList := by
  have blank : ∀ c ∈ [' '], isBlank c = true := List.forall_mem_singleton.mpr rfl
  obtain ⟨first, tail, written, unblank, last⟩ := formed.solid
  rw [← List.singleton_append]
  refine Text.trim_run blank blank (fun c head => ?_) last
  rw [written] at head
  cases head
  exact unblank

theorem Expression.ofText_operand {offset : Nat} (read : Operand.ofText word.toList offset = .ok operand)
    (registry : Registry) : ofText registry word.toList offset =
      .ok ⟨operand, [], word, .ofLength offset word.utf8ByteSize⟩ := by
  have splits : Splits word.toList word.toList [] := ⟨by simp, formed, nofun⟩
  have from_ := Operand.readFrom_iff_ofText.mpr read
  refine ofText_eq_ok_iff.mpr ⟨word.toList, [], splits, from_, trivial, String.ofList_toList.symm, ?_⟩
  rw [Text.byteLength_toList]
  rfl

/-- The tag of an operand is read as one expression, which is the operand. -/
theorem readToken_operand (read : Operand.ofText word.toList 3 = .ok operand) (catalog : Catalog) (source : String)
    (registry : Registry) : readToken catalog source registry (.ofTag .variable 0 (' ' :: (word.toList ++ [' ']))) =
      .ok (some (.variable ⟨operand, [], word, .ofLength 3 word.utf8ByteSize⟩ (.ofLength 0 (6 + word.utf8ByteSize))),
        registry) := by
  obtain ⟨first, tail, written, unblank, -⟩ := formed.solid
  have front : (' ' :: (word.toList ++ [' '])).takeWhile isBlank = [' '] := by
    have space : isBlank ' ' = true := rfl
    simp [written, unblank, space]
  have nonempty : word.isEmpty = false := by
    rw [String.isEmpty_eq_false_iff, ne_eq, ← String.toList_eq_nil_iff, written]
    exact List.cons_ne_nil _ _
  have whole : byteLength (' ' :: (word.toList ++ [' '])) = 2 + word.utf8ByteSize := by
    have one : ' '.utf8Size = 1 := rfl
    simp only [Text.byteLength_cons, Text.byteLength_append, Text.byteLength_toList, Text.byteLength_nil, one]
    omega
  have one : byteLength [' '] = 1 := rfl
  rw [Token.ofTag, trim_operand formed, front, whole, one, String.ofList_toList, readToken, nonempty]
  simp only [Bool.false_eq_true, if_false, Expression.ofText_operand formed read, Span.ofLength]
  have stop : 0 + 4 + (2 + word.utf8ByteSize) = 0 + (6 + word.utf8ByteSize) := by omega
  rw [stop]
  rfl

/-- The template that is a tag of an operand. -/
theorem parse_operandTag (read : Operand.ofText word.toList 3 = .ok operand) (oneLine : '\n' ∉ word.toList)
    (closed : ¬['\x7d', '\x7d'] <:+: ' ' :: (word.toList ++ [' ']) ++ ['\x7d']) {catalog : Catalog}
    {builtins : List String} (known : ∀ name ∈ builtins, (catalog.find? name).isSome) :
    ∃ registry, parse catalog builtins ("\x7b\x7b " ++ word ++ " \x7d\x7d") =
      .ok ⟨"\x7b\x7b " ++ word ++ " \x7d\x7d", [.variable ⟨operand, [], word, .ofLength 3 word.utf8ByteSize⟩
        (.ofLength 0 (6 + word.utf8ByteSize))], registry⟩ := by
  have written : ("\x7b\x7b " ++ word ++ " \x7d\x7d").toList =
      '\x7b' :: '\x7b' :: (' ' :: (word.toList ++ [' ']) ++ ['\x7d', '\x7d']) := by simp
  have scanned := Token.scan_variable closed (by simpa using oneLine) written
  refine ⟨Registry.bindAll .empty ((Load.libraries builtins).bindings catalog), ?_⟩
  rw [parse, loadLibraries_builtins.mpr ⟨known, rfl⟩, scanned]
  simp only [bind, Except.bind, readTokens, readToken_operand formed read]
  rfl

end

/-- A tag of a literal shows its value, whatever the context. -/
theorem render_literal (source word : String) (value : Value) (span inside around : Span) (registry : Registry)
    (context : Context) (settings : Settings) :
    (⟨source, [.variable ⟨.literal value span, [], word, inside⟩ around], registry⟩ : Template).render context settings =
      pure (value.render settings.autoescape) := by
  simp [render, renderNodes, Node.render, Expression.render, Operand.resolve, applyFilters, -Evaluation.pure_eq]

end Stencil.Template
