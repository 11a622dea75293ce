import Stencil.Proofs.OperandTag

/-! Text in quotes: how a text is written so that it is read back, and what is read of any text in quotes. -/

set_option autoImplicit false

namespace Stencil

namespace Text

variable {a b : Char} {replacement cs : List Char}

theorem replace_pair (rest : List Char) :
    replace [a, b] replacement (a :: b :: rest) = replacement ++ replace [a, b] replacement rest := by
  simp [replace, replaceFrom]

theorem replace_of_head (other : cs.head? ≠ some b) :
    replace [a, b] replacement (a :: cs) = a :: replace [a, b] replacement cs := by
  cases cs with
  | nil => simp [replace, replaceFrom]
  | cons c cs =>
    have apart : b ≠ c := fun same => other (congrArg some same.symm)
    simp [replace, replaceFrom, apart]

theorem replace_of_ne {c : Char} (other : c ≠ a) (rest : List Char) :
    replace [a, b] replacement (c :: rest) = c :: replace [a, b] replacement rest := by
  simp [replace, replaceFrom, other.symm]

end Text

namespace Template

open Text (byteLength isBlank splitAtPair trim)

/-- What text between quote marks stands for, in one pass from the left: a backslash with a quote mark or a backslash
behind it stands for that one, and every other character for itself. -/
def decode (quote : Char) : List Char → List Char
  | '\\' :: c :: cs => if c = quote ∨ c = '\\' then c :: decode quote cs else '\\' :: decode quote (c :: cs)
  | c :: cs => c :: decode quote cs
  | [] => []

/-- A text with a backslash put before every backslash and every quote mark. -/
def protect (quote : Char) (text : List Char) : List Char :=
  text.flatMap fun c => if c = '\\' ∨ c = quote then ['\\', c] else [c]

/-- A text as it is written in quotes. -/
def quoted (quote : Char) (text : String) : String :=
  String.ofList (quote :: (protect quote text.toList ++ [quote]))

section
variable {quote : Char} {cs text : List Char}

theorem decode_cons {c : Char} (plain : c ≠ '\\') (cs : List Char) : decode quote (c :: cs) = c :: decode quote cs := by
  simp [decode, plain]

theorem QuotedBody.head?_ne (body : QuotedBody quote cs) (plain : quote ≠ '\\') : cs.head? ≠ some quote := by
  cases body with
  | nil => nofun
  | plain other => simpa using other
  | guarded => simpa using plain.symm

/-- Where each quote mark is protected, replacing them first and backslashes second does what one pass does. -/
theorem QuotedBody.unquote_eq (body : QuotedBody quote cs) (plain : quote ≠ '\\') :
    unquote quote cs = decode quote cs := by
  -- A backslash is taken with what it protects, so neither replacement looks across the end of such a pair.
  induction body with
  | nil => rfl
  | @plain c cs other bare _ ih =>
    rw [decode_cons bare, ← ih, unquote, Text.replace_of_ne bare, Text.replace_of_ne bare, unquote]
  | @guarded c cs body ih =>
    rw [decode]
    by_cases same : c = quote
    · rw [if_pos (Or.inl same), ← ih, same, unquote, Text.replace_pair, List.singleton_append,
        Text.replace_of_ne plain, unquote]
    · have first : (c :: cs).head? ≠ some quote := by simpa using same
      by_cases bare : c = '\\'
      · rw [if_pos (Or.inr bare), ← ih, unquote, Text.replace_of_head first, bare,
          Text.replace_of_head (body.head?_ne plain), Text.replace_pair, List.singleton_append, unquote]
      · have second : (c :: Text.replace ['\\', quote] [quote] cs).head? ≠ some '\\' := by simpa using bare
        rw [if_neg (not_or.mpr ⟨same, bare⟩), decode_cons bare, ← ih, unquote, Text.replace_of_head first,
          Text.replace_of_ne bare, Text.replace_of_head second, Text.replace_of_ne bare, unquote]

theorem protect_cons (c : Char) (text : List Char) :
    protect quote (c :: text) = (if c = '\\' ∨ c = quote then ['\\', c] else [c]) ++ protect quote text :=
  List.flatMap_cons

theorem protect_body (quote : Char) (text : List Char) : QuotedBody quote (protect quote text) := by
  induction text with
  | nil => exact .nil
  | cons c text ih =>
    rw [protect_cons]
    split
    next => exact .guarded ih
    next bare => exact .plain (fun same => bare (Or.inr same)) (fun same => bare (Or.inl same)) ih

theorem decode_protect (quote : Char) (text : List Char) : decode quote (protect quote text) = text := by
  induction text with
  | nil => rfl
  | cons c text ih =>
    rw [protect_cons]
    split
    next special =>
      rw [List.cons_append, List.singleton_append, decode, if_pos special.symm, ih]
    next bare => rw [List.singleton_append, decode_cons fun same => bare (Or.inl same), ih]

theorem ne_backslash (mark : quote = '"' ∨ quote = '\'') : quote ≠ '\\' := by
  rcases mark with rfl | rfl <;> decide

theorem Operand.ofText_constant (mark : quote = '"' ∨ quote = '\'') (inner : List Char) (offset : Nat) :
    ofText (quote :: (inner ++ [quote])) offset = .ok (.literal (.safeText (String.ofList (unquote quote inner)))
      (.ofLength offset (byteLength (quote :: (inner ++ [quote]))))) := by
  have found : (quote :: (inner ++ [quote])).head?.filter isQuote = some quote := by
    rcases mark with rfl | rfl <;> rfl
  have between : ((quote :: (inner ++ [quote])).drop 1).dropLast = inner := by simp
  rw [ofText, found, between]

/-- Protecting characters brings no other character next to itself. -/
theorem pair_of_protect {a : Char} (bare : a ≠ '\\') (other : a ≠ quote) {tail : List Char} (apart : tail.head? ≠ some a)
    (pair : [a, a] <:+: protect quote text ++ tail) : [a, a] <:+: text ∨ [a, a] <:+: tail := by
  induction text with
  | nil => exact Or.inr pair
  | cons c text ih =>
    have later (pair : [a, a] <:+: protect quote text ++ tail) : [a, a] <:+: c :: text ∨ [a, a] <:+: tail :=
      (ih pair).imp_left fun inside => List.infix_cons_iff.mpr (Or.inr inside)
    rw [protect_cons] at pair
    split at pair
    next special =>
      simp only [List.cons_append, List.nil_append, List.infix_cons_iff, List.cons_prefix_cons] at pair
      rcases pair with ⟨same, -⟩ | ⟨rfl, -⟩ | inside
      · exact absurd same bare
      · exact (special.elim bare other).elim
      · exact later inside
    next =>
      rw [List.append_assoc, List.singleton_append, List.infix_cons_iff, List.cons_prefix_cons] at pair
      rcases pair with ⟨rfl, next⟩ | inside
      · -- What stands behind it is the next character of the text, or a backslash before that.
        cases text with
        | nil =>
          cases tail with
          | nil => simp [protect] at next
          | cons d tail =>
            obtain ⟨rfl, -⟩ := List.cons_prefix_cons.mp next
            exact absurd rfl apart
        | cons d text =>
          rw [protect_cons] at next
          split at next
          next => exact absurd (List.cons_prefix_cons.mp next).1 bare
          next =>
            obtain ⟨rfl, -⟩ := List.cons_prefix_cons.mp next
            exact Or.inl ⟨[], text, rfl⟩
      · exact later inside

end

section
variable {quote : Char} (mark : quote = '"' ∨ quote = '\'') (text : String)
include mark

theorem isConstant_quoted : IsConstant (quoted quote text).toList :=
  ⟨quote, _, mark, protect_body quote text.toList, String.toList_ofList⟩

/-- A text in quotes is read as the text. -/
theorem Operand.ofText_quoted (offset : Nat) : ofText (quoted quote text).toList offset =
    .ok (.literal (.safeText text) (.ofLength offset (quoted quote text).utf8ByteSize)) := by
  have inside : unquote quote (protect quote text.toList) = text.toList :=
    ((protect_body quote text.toList).unquote_eq (ne_backslash mark)).trans (decode_protect quote text.toList)
  rw [← Text.byteLength_toList, quoted, String.toList_ofList, ofText_constant mark, inside, String.ofList_toList]

/-- Whatever follows it, a text in quotes behind the colon of a filter is its argument. -/
theorem takeFilter_quoted {f : FilterText} (formed : f.WellFormed) (given : f.argument = some (quoted quote text).toList)
    (rest : List Char) : takeFilter (f.text ++ rest) = some (f, rest) := by
  obtain ⟨before, blanks, leads, follows, lead⟩ := formed.lead
  obtain ⟨taken, left⟩ := Text.run_stop formed.name (@FilterText.name_stops rest f.argument (by simp [given]))
  have argument : takeArgument (argumentText f.argument ++ rest) = (f.argument, rest) := by
    rw [given, argumentText, List.cons_append, takeArgument, takeOperand,
      takeConstant_complete (isConstant_quoted mark text)]
    rfl
  have cut := takeFilter_lead leads follows (formed.head_not_blank (argumentText f.argument ++ rest))
    (by rw [taken]; exact formed.name_ne_nil)
  rw [taken, left, argument, ← lead] at cut
  rw [FilterText.text_append lead, cut]

/-- The filter behind which a text in quotes stands is read with the text as its argument, and the others behind it. -/
theorem readFilters_quoted {registry : Registry} {position : Nat} {f : FilterText} {bound : BoundFilter}
    (formed : f.WellFormed) (given : f.argument = some (quoted quote text).toList)
    (found : registry.get? (String.ofList f.name) = some bound) (accepts : bound.filter.arity.accepts 2 = true)
    (rest : List Char) : readFilters registry position (f.text ++ rest) = (do
      let (others, left) ← readFilters registry (position + byteLength f.text) rest
      return (⟨String.ofList f.name, bound.library, bound.filter,
        some (.literal (.safeText text) (.ofLength (f.argumentStart position) (quoted quote text).utf8ByteSize)),
        ⟨position + byteLength f.lead, position + byteLength f.text⟩⟩ :: others, left)) := by
  have read : f.argument.mapM (Operand.ofText · (f.argumentStart position)) = .ok (some
      (.literal (.safeText text) (.ofLength (f.argumentStart position) (quoted quote text).utf8ByteSize))) := by
    rw [given, Option.mapM_some, Operand.ofText_quoted mark]
    rfl
  have two : 1 + f.argument.toList.length = 2 := by rw [given]; rfl
  rw [readFilters_of_some (takeFilter_quoted mark text formed given rest), FilterUse.ofText_of_bound found read, two,
    if_pos accepts]
  rfl

end

/-- Every complete text in quotes is read as one pass over what stands between its quote marks tells. -/
theorem takeConstant_decodes {cs text after : List Char} (cut : takeConstant cs = some (text, after)) :
    ∃ quote inner, (quote = '"' ∨ quote = '\'') ∧ text = quote :: (inner ++ [quote]) ∧
      unquote quote inner = decode quote inner ∧
      ∀ offset, Operand.ofText text offset = .ok (.literal (.safeText (String.ofList (decode quote inner)))
        (.ofLength offset (byteLength text))) := by
  obtain ⟨quote, inner, mark, body, rfl⟩ := takeConstant_sound cut
  have once := body.unquote_eq (ne_backslash mark)
  exact ⟨quote, inner, mark, rfl, once, fun offset => by rw [Operand.ofText_constant mark, once]⟩

/-- Three backslashes protect each other and the quote mark; a lone one before another character stays. -/
theorem takeConstant_decodes_mixed :
    let inner := "é\\\\\\'\\n\"".toList
    takeConstant ("'".toList ++ inner ++ "'|lower".toList) = some ('\'' :: (inner ++ ['\'']), "|lower".toList) ∧
      unquote '\'' inner = "é\\'\\n\"".toList := by
  intro inner
  have cut : takeConstant ("'".toList ++ inner ++ "'|lower".toList) =
      some ('\'' :: (inner ++ ['\'']), "|lower".toList) := by decide +kernel
  obtain ⟨quote, other, -, same, once, -⟩ := takeConstant_decodes cut
  obtain ⟨rfl, same⟩ := List.cons.inj same
  obtain ⟨rfl, -⟩ := List.append_inj' same rfl
  exact ⟨cut, once.trans (by decide +kernel)⟩

section
variable {quote : Char} (mark : quote = '"' ∨ quote = '\'') {text : String}
include mark

theorem newline_not_mem_quoted (oneLine : '\n' ∉ text.toList) : '\n' ∉ (quoted quote text).toList := by
  have other : '\n' ≠ quote := by rcases mark with rfl | rfl <;> decide
  have inside (member : '\n' ∈ protect quote text.toList) : False := by
    obtain ⟨c, among, member⟩ := List.mem_flatMap.mp member
    split at member <;> simp at member
    next => exact oneLine (member ▸ among)
    next => exact oneLine (member ▸ among)
  simpa [quoted, other] using inside

theorem pair_not_mem_quoted (closed : ¬['\x7d', '\x7d'] <:+: text.toList) :
    ¬['\x7d', '\x7d'] <:+: ' ' :: ((quoted quote text).toList ++ [' ']) ++ ['\x7d'] := by
  have other : '\x7d' ≠ quote := by rcases mark with rfl | rfl <;> decide
  have behind : ¬['\x7d', '\x7d'] <:+: [quote, ' ', '\x7d'] := by rcases mark with rfl | rfl <;> decide
  have written : ' ' :: ((quoted quote text).toList ++ [' ']) ++ ['\x7d'] =
      ' ' :: quote :: (protect quote text.toList ++ [quote, ' ', '\x7d']) := by
    simp [quoted]
  simp only [written, List.infix_cons_iff, List.cons_prefix_cons]
  rintro (⟨space, -⟩ | ⟨same, -⟩ | pair)
  · exact absurd space (by decide)
  · exact other same
  · exact (pair_of_protect (by decide) other (by simpa using other.symm) pair).elim closed behind

/-- The template that is a tag of a text in quotes. -/
theorem parse_quoted {catalog : Catalog} {builtins : List String} (oneLine : '\n' ∉ text.toList)
    (closed : ¬['\x7d', '\x7d'] <:+: text.toList) (known : ∀ name ∈ builtins, (catalog.find? name).isSome) :
    let literal := quoted quote text
    let width := literal.utf8ByteSize
    ∃ registry, parse catalog builtins ("\x7b\x7b " ++ literal ++ " \x7d\x7d") =
      .ok ⟨"\x7b\x7b " ++ literal ++ " \x7d\x7d", [.variable ⟨.literal (.safeText text) (.ofLength 3 width), [], literal,
        .ofLength 3 width⟩ (.ofLength 0 (6 + width))], registry⟩ :=
  parse_operandTag (Or.inl (isConstant_quoted mark text)) (Operand.ofText_quoted mark text 3)
    (newline_not_mem_quoted mark oneLine) (pair_not_mem_quoted mark closed) known

end

end Template

/-- A text that is written in quotes comes back. Alone in a tag it is read as one literal and shown just as it is, with
escaping and without. Behind the colon of a filter it is the argument, whatever filters follow. -/
theorem Engine.render_quoted (engine : Engine) {quote : Char} (mark : quote = '"' ∨ quote = '\'') {text : String}
    (oneLine : '\n' ∉ text.toList) (closed : ¬['\x7d', '\x7d'] <:+: text.toList)
    (known : ∀ name ∈ engine.settings.builtins, (engine.catalog.find? name).isSome) :
    let literal := Template.quoted quote text
    let width := literal.utf8ByteSize
    (∃ template, engine.parse ("\x7b\x7b " ++ literal ++ " \x7d\x7d") = .ok template ∧
      template.nodes = [.variable ⟨.literal (.safeText text) (.ofLength 3 width), [], literal, .ofLength 3 width⟩
        (.ofLength 0 (6 + width))] ∧
      ∀ context settings, template.render context settings = pure text) ∧
    ∀ (registry : Registry) (position : Nat) (f : Template.FilterText) (rest : List Char), f.WellFormed →
      f.argument = some literal.toList →
      Template.takeFilter (f.text ++ rest) = some (f, rest) ∧
      ∀ bound, registry.get? (String.ofList f.name) = some bound → bound.filter.arity.accepts 2 = true →
        Template.readFilters registry position (f.text ++ rest) = (do
          let (others, left) ← Template.readFilters registry (position + Text.byteLength f.text) rest
          return (⟨String.ofList f.name, bound.library, bound.filter,
            some (.literal (.safeText text) (.ofLength (f.argumentStart position) width)),
            ⟨position + Text.byteLength f.lead, position + Text.byteLength f.text⟩⟩ :: others, left)) := by
  intro literal width
  refine ⟨?_, fun registry position f rest formed given => ⟨Template.takeFilter_quoted mark text formed given rest,
    fun bound found accepts => Template.readFilters_quoted mark text formed given found accepts rest⟩⟩
  obtain ⟨registry, read⟩ := Template.parse_quoted mark oneLine closed known
  refine ⟨_, read, rfl, fun context settings => ?_⟩
  rw [Template.render_literal]
  simp [Value.render, Value.isSafe, Value.display, -Evaluation.pure_eq]

/-- Both marks that are protected, a character that is escaped elsewhere, one of two bytes and the marks of a tag. -/
theorem Engine.render_quoted_mixed :
    let engine : Engine := ⟨{ builtins := ["custom_filters"] }, Fixture.libraries.catalog⟩
    let text := "<é'\\ \x7b\x7b"
    let literal := "'<é\\'\\\\ \x7b\x7b'"
    let registry := Registry.load .empty Fixture.customFilters
    let f : Template.FilterText := ⟨" |".toList, "cut".toList, some literal.toList⟩
    '\n' ∉ text.toList ∧ ¬['\x7d', '\x7d'] <:+: text.toList ∧
    (∀ name ∈ engine.settings.builtins, (engine.catalog.find? name).isSome) ∧
    (∃ template, engine.parse ("\x7b\x7b " ++ literal ++ " \x7d\x7d") = .ok template ∧
      engine.render template .empty = pure text) ∧
    f.WellFormed ∧ ∃ bound other, registry.get? "cut" = some bound ∧ bound.filter.arity.accepts 2 = true ∧
      other.name = "lower" ∧
      Template.readFilters registry 3 (f.text ++ "|lower".toList) =
        .ok ([⟨"cut", bound.library, bound.filter, some (.literal (.safeText text) (.ofLength 9 12)), ⟨5, 21⟩⟩, other],
          []) := by
  intro engine text literal registry f
  have mark : '\'' = '"' ∨ '\'' = '\'' := Or.inr rfl
  have oneLine : '\n' ∉ text.toList := by decide
  have closed : ¬['\x7d', '\x7d'] <:+: text.toList := by decide
  have known : ∀ name ∈ engine.settings.builtins, (engine.catalog.find? name).isSome := by decide +kernel
  have written : Template.quoted '\'' text = literal := by decide +kernel
  obtain ⟨⟨template, read, -, shown⟩, asArgument⟩ := Engine.render_quoted engine mark oneLine closed known
  rw [written] at read asArgument
  have formed : f.WellFormed := by
    have word : "cut".toList.all Text.isWord = true := by decide +kernel
    refine ⟨⟨[' '], [], List.forall_mem_singleton.mpr rfl, nofun, rfl⟩, by decide, List.all_eq_true.mp word,
      fun inside given => Or.inl ?_⟩
    rw [← Option.some.inj given, ← written]
    exact Template.isConstant_quoted mark text
  have accepted : (registry.get? "cut").map (·.filter.arity.accepts 2) = some true := by decide +kernel
  obtain ⟨bound, found, accepts⟩ := Option.map_eq_some_iff.mp accepted
  have behind : (Template.readFilters registry (3 + Text.byteLength f.text) "|lower".toList).toOption.map
      (fun (others, left) => (others.map (·.name), left)) = some (["lower"], []) := by decide +kernel
  obtain ⟨⟨others, left⟩, next, names⟩ := Option.map_eq_some_iff.mp behind
  obtain ⟨listed, rfl⟩ := Prod.mk.inj names
  obtain ⟨other, rfl, name⟩ := List.map_eq_singleton_iff.mp listed
  refine ⟨oneLine, closed, known, ⟨template, read, shown .empty engine.settings⟩, formed, bound, other, found, accepts,
    name, ?_⟩
  have start : Span.ofLength (f.argumentStart 3) literal.utf8ByteSize = .ofLength 9 12 := by decide +kernel
  have span : (⟨3 + Text.byteLength f.lead, 3 + Text.byteLength f.text⟩ : Span) = ⟨5, 21⟩ := by decide +kernel
  rw [(asArgument registry 3 f "|lower".toList formed rfl).2 bound found accepts, Outcome.of_toOption next, start, span]
  rfl

end Stencil
