import Stencil.Engine
import Stencil.Proofs.DecimalGrammar
import Stencil.Proofs.Location
import Stencil.Proofs.OperandTag

/-! Which variables of the grammar of expressions are numbers, what numbers they are, and that all others are paths. -/

set_option autoImplicit false

namespace Stencil

namespace Decimal

def InRange (n : Int) : Prop := -2 ^ 63 ≤ n ∧ n < 2 ^ 63

instance (n : Int) : Decidable (InRange n) := inferInstanceAs (Decidable (_ ∧ _))

/-- A point or an exponent mark. -/
def HasMark (text : List Char) : Prop := '.' ∈ text ∨ 'e' ∈ text ∨ 'E' ∈ text

section
variable {text : List Char} {n : Int}

theorem Whole.not_hasMark (whole : Whole text n) : ¬HasMark text := by
  obtain @⟨negative, sign, digits, signed, formed⟩ := whole
  have bare {c : Char} (other : Text.isDigit c = false) (sign_ : c ≠ '-' ∧ c ≠ '+') : c ∉ sign ++ digits := by
    intro member
    rcases List.mem_append.mp member with member | member
    · cases signed <;> simp at member
      · exact sign_.2 member
      · exact sign_.1 member
    · rw [formed.2 c member] at other
      cases other
  rintro (point | small | large)
  · exact bare (by decide) (by decide) point
  · exact bare (by decide) (by decide) small
  · exact bare (by decide) (by decide) large

theorem Whole.unique {m : Int} (whole : Whole text n) (other : Whole text m) : n = m :=
  Option.some.inj ((readInt?_eq_some_iff.mpr whole).symm.trans (readInt?_eq_some_iff.mpr other))

theorem inRange_toInt (m : Int64) : InRange m.toInt := ⟨m.le_toInt, m.toInt_lt⟩

theorem inRange_iff : InRange n ↔ ∃ m : Int64, m.toInt = n :=
  ⟨fun inside => ⟨.ofInt n, Int64.toInt_ofInt_of_le inside.1 inside.2⟩, fun ⟨m, same⟩ => same ▸ inRange_toInt m⟩

theorem inRange_iff_bounds : InRange n ↔ Int64.minValue.toInt ≤ n ∧ n ≤ Int64.maxValue.toInt := by
  have least : Int64.minValue.toInt = -2 ^ 63 := rfl
  have most : Int64.maxValue.toInt = 2 ^ 63 - 1 := rfl
  rw [InRange, least, most]
  omega

theorem readInt64?_eq_some_iff {m : Int64} : readInt64? text = some m ↔ Whole text m.toInt := by
  rw [readInt64?, Option.bind_eq_some_iff]
  constructor
  · rintro ⟨n, read, kept⟩
    split at kept
    next bounds =>
      cases kept
      obtain ⟨low, high⟩ := inRange_iff_bounds.mpr bounds
      rw [Int64.toInt_ofInt_of_le low high]
      exact readInt?_eq_some_iff.mp read
    next => cases kept
  · intro whole
    have bounds := inRange_iff_bounds.mp (inRange_toInt m)
    exact ⟨m.toInt, readInt?_eq_some_iff.mpr whole, by rw [if_pos bounds, Int64.ofInt_toInt]⟩

theorem readInt64?_eq_none_iff (whole : Whole text n) : readInt64? text = none ↔ ¬InRange n := by
  rw [inRange_iff, Option.eq_none_iff_forall_not_mem]
  constructor
  · rintro none ⟨m, rfl⟩
    exact none m (readInt64?_eq_some_iff.mpr whole)
  · exact fun outside m read => outside ⟨m, (readInt64?_eq_some_iff.mp read).unique whole⟩

/-- What is left behind the sign is digits exactly where the text is a whole number. -/
theorem isDigits_splitSign_iff : IsDigits (splitSign text).2 ↔ ∃ n, Whole text n := by
  constructor
  · intro digits
    obtain ⟨sign, signed, split⟩ := splitSign_sound text
    rw [split]
    exact ⟨_, .signed signed digits⟩
  · rintro ⟨n, ⟨signed, digits⟩⟩
    rw [signed.split digits.head_ne_sign]
    exact digits

end

end Decimal

namespace Template

open Decimal (HasMark InRange IsDigits Whole Written)
open Text (byteLength isDigit)

/-- What may be a number with a point or an exponent: it neither starts like a name nor ends in a point. -/
structure Fractional (text : List Char) : Prop where
  mark : HasMark text
  lead : ∃ c, text.head? = some c ∧ (isDigit c = true ∨ c = '-' ∨ c = '+' ∨ c = '.')
  last : text.getLast? ≠ some '.'

/-- The numbers that texts stand for: whole ones, which are doubles if they leave the 64-bit range, and decimals. -/
inductive Denotes (text : List Char) : Value → Prop
  | integer {m : Int64} : Whole text m.toInt → Denotes text (.integer m)
  | wide {n : Int} {reading : Decimal.Reading} : Whole text n → ¬InRange n → Written text reading →
      Denotes text (.float reading.toFloat)
  | fractional {reading : Decimal.Reading} : Fractional text → Written text reading →
      Denotes text (.float reading.toFloat)

section
variable {text : List Char} {value : Value}

theorem hasMark_iff : (!text.contains '.' && !text.any isExponentMark) = true ↔ ¬HasMark text := by
  simp only [HasMark, isExponentMark, Bool.and_eq_true, Bool.not_eq_true', List.contains_eq_mem, decide_eq_false_iff_not,
    List.any_eq_false, Bool.or_eq_true, beq_iff_eq]
  grind

theorem map_readFloat?_eq_some_iff : (Decimal.readFloat? text).map Value.float = some value ↔
    ∃ reading, Written text reading ∧ .float reading.toFloat = value := by
  simp [Decimal.readFloat?, Decimal.read?_eq_some_iff]

theorem readNumber?_whole (plain : ¬HasMark text) : readNumber? text = some value ↔
    (∃ m : Int64, Whole text m.toInt ∧ .integer m = value) ∨ (∃ n, Whole text n ∧ ¬InRange n) ∧
      ∃ reading, Written text reading ∧ .float reading.toFloat = value := by
  rw [readNumber?, if_pos (hasMark_iff.mpr plain)]
  cases read : Decimal.readInt64? text with
  | some m =>
    have whole := Decimal.readInt64?_eq_some_iff.mp read
    constructor
    · intro found
      exact Or.inl ⟨m, whole, Option.some.inj found⟩
    · rintro (⟨other, again, rfl⟩ | ⟨⟨n, again, outside⟩, -⟩)
      · rw [Int64.toInt_inj.mp (whole.unique again)]
      · exact absurd (again.unique whole ▸ Decimal.inRange_toInt m) outside
  | none =>
    -- The test of the digits passes the whole numbers, and those that come to it have left the 64-bit range.
    have formed : ((Decimal.splitSign text).2.isEmpty || !(Decimal.splitSign text).2.all isDigit) = true ↔
        ¬∃ n, Whole text n := by
      rw [← Decimal.isDigits_splitSign_iff, IsDigits, Bool.or_eq_true, List.isEmpty_iff, Bool.not_eq_true',
        ← Bool.not_eq_true, List.all_eq_true, not_and_or, not_not]
    have outside {n : Int} (whole : Whole text n) : ¬InRange n := (Decimal.readInt64?_eq_none_iff whole).mp read
    have wide : (∃ n, Whole text n ∧ ¬InRange n) ↔ ∃ n, Whole text n :=
      exists_congr fun n => and_iff_left_of_imp outside
    have narrow : ¬∃ m : Int64, Whole text m.toInt ∧ .integer m = value :=
      fun ⟨m, whole, _⟩ => outside whole (Decimal.inRange_toInt m)
    rw [or_iff_right narrow, wide]
    dsimp only
    split
    next other => exact iff_of_false nofun fun found => formed.mp other found.1
    next digits =>
      rw [map_readFloat?_eq_some_iff, and_iff_right (not_not.mp fun none => digits (formed.mpr none))]

theorem readNumber?_marked (mark : HasMark text) : readNumber? text = some value ↔
    Fractional text ∧ ∃ reading, Written text reading ∧ .float reading.toFloat = value := by
  rw [readNumber?, if_neg fun plain => hasMark_iff.mp plain mark]
  split
  next point => exact iff_of_false nofun fun found => found.1.last (beq_iff_eq.mp point)
  next last =>
    cases head : text.head? with
    | none =>
      refine iff_of_false nofun fun found => ?_
      obtain ⟨c, first, -⟩ := found.1.lead
      cases head.symm.trans first
    | some c =>
      have lead : (isDigit c || c == '-' || c == '+' || c == '.') = true ↔
          isDigit c = true ∨ c = '-' ∨ c = '+' ∨ c = '.' := by
        simp only [Bool.or_eq_true, beq_iff_eq, or_assoc]
      dsimp only
      split
      next first =>
        have fractional : Fractional text := ⟨mark, ⟨c, head, lead.mp first⟩, fun point => last (beq_iff_eq.mpr point)⟩
        rw [map_readFloat?_eq_some_iff, and_iff_right fractional]
      next other =>
        refine iff_of_false nofun fun found => ?_
        obtain ⟨d, first, leads⟩ := found.1.lead
        cases head.symm.trans first
        exact other (lead.mpr leads)

/-- A text is read as a number exactly if it is that of the number. -/
theorem readNumber?_eq_some_iff : readNumber? text = some value ↔ Denotes text value := by
  by_cases mark : HasMark text
  · rw [readNumber?_marked mark]
    constructor
    · rintro ⟨fractional, reading, written, rfl⟩
      exact .fractional fractional written
    · rintro (whole | ⟨whole⟩ | ⟨fractional, written⟩)
      · exact absurd mark whole.not_hasMark
      · exact absurd mark whole.not_hasMark
      · exact ⟨fractional, _, written, rfl⟩
  · rw [readNumber?_whole mark]
    constructor
    · rintro (⟨m, whole, rfl⟩ | ⟨⟨n, whole, outside⟩, reading, written, rfl⟩)
      · exact .integer whole
      · exact .wide whole outside written
    · rintro (whole | ⟨whole, outside, written⟩ | ⟨fractional⟩)
      · exact Or.inl ⟨_, whole, rfl⟩
      · exact Or.inr ⟨⟨_, whole, outside⟩, _, written, rfl⟩
      · exact absurd fractional.mark mark

theorem IsVariable.not_quoted (variable_ : IsVariable text) : text.head?.filter isQuote = none := by
  have other {c : Char} (plain : ¬(c = '"' ∨ c = '\'')) : (some c).filter isQuote = none := by
    simpa [isQuote] using plain
  rcases variable_.cases with ⟨c, tail, rfl, path⟩ | ⟨sign, digit, tail, signed, -, -, rfl⟩
  · refine other ?_
    rintro (rfl | rfl) <;> exact absurd (path _ List.mem_cons_self) (by decide +kernel)
  · refine other ?_
    rcases signed with rfl | rfl <;> decide

/-- A variable is the number it denotes, or else a path. -/
theorem Operand.ofText_variable (variable_ : IsVariable text) (offset : Nat) {operand : Operand} :
    ofText text offset = .ok operand ↔
      (∃ value, Denotes text value ∧ operand = .literal value (.ofLength offset (byteLength text))) ∨
      (¬∃ value, Denotes text value) ∧ hasPrivateName text = false ∧ operand = .path (.ofText text offset) := by
  rw [ofText, variable_.not_quoted]
  cases read : readNumber? text with
  | some value =>
    have denotes := readNumber?_eq_some_iff.mp read
    constructor
    · intro found
      cases found
      exact Or.inl ⟨value, denotes, rfl⟩
    · rintro (⟨other, again, rfl⟩ | ⟨none, -⟩)
      · rw [← readNumber?_eq_some_iff, read] at again
        cases again
        rfl
      · exact absurd ⟨value, denotes⟩ none
  | none =>
    have none : ¬∃ value, Denotes text value := by
      rintro ⟨value, denotes⟩
      cases read.symm.trans (readNumber?_eq_some_iff.mpr denotes)
    rw [or_iff_right fun ⟨value, denotes, _⟩ => none ⟨value, denotes⟩, and_iff_right none]
    dsimp only
    split
    next private_ => exact iff_of_false nofun fun found => absurd (private_.symm.trans found.1) (by decide)
    next public_ =>
      rw [and_iff_right (Bool.not_eq_true _ ▸ public_), Except.ok.injEq, eq_comm]

theorem Operand.ofText_literal (variable_ : IsVariable text) (offset : Nat) : ofText text offset =
    .ok (.literal value (.ofLength offset (byteLength text))) ↔ Denotes text value := by
  rw [ofText_variable variable_]
  constructor
  · rintro (⟨other, denotes, same⟩ | ⟨-, -, same⟩)
    · cases same
      exact denotes
    · cases same
  · exact fun denotes => Or.inl ⟨value, denotes, rfl⟩

theorem denotes_integer_iff {m : Int64} : Denotes text (.integer m) ↔ Whole text m.toInt :=
  ⟨fun | .integer whole => whole, .integer⟩

theorem denotes_float_iff {x : Float} : Denotes text (.float x) ↔
    ((∃ n, Whole text n ∧ ¬InRange n) ∨ Fractional text) ∧
      ∃ reading, Written text reading ∧ x = reading.toFloat := by
  constructor
  · intro denotes
    cases denotes with
    | wide whole outside written => exact ⟨Or.inl ⟨_, whole, outside⟩, _, written, rfl⟩
    | fractional fractional written => exact ⟨Or.inr fractional, _, written, rfl⟩
  · rintro ⟨⟨n, whole, outside⟩ | fractional, reading, written, rfl⟩
    · exact .wide whole outside written
    · exact .fractional fractional written

theorem exists_denotes_of_whole {n : Int} (whole : Whole text n) : ∃ value, Denotes text value := by
  by_cases inside : InRange n
  · obtain ⟨m, rfl⟩ := Decimal.inRange_iff.mp inside
    exact ⟨_, .integer whole⟩
  · obtain ⟨reading, written⟩ := whole.written
    exact ⟨_, .wide whole inside written⟩

end

section
variable (n : Int64)

theorem whole_toString : Whole (toString n.toInt).toList n.toInt :=
  Decimal.readInt?_eq_some_iff.mp (Decimal.readInt?_toString n.toInt)

/-- A number is written with digits behind at most a minus sign. -/
theorem toString_cases (n : Int) : (∀ c ∈ (toString n).toList, isDigit c = true) ∨
    ∃ digits, IsDigits digits ∧ (toString n).toList = '-' :: digits := by
  rw [Decimal.toString_toList_int]
  split
  next => exact Or.inl fun c => Decimal.isDigit_of_mem_toString
  next =>
    exact Or.inr ⟨_, ⟨Decimal.toString_toList_ne_nil _, fun c => Decimal.isDigit_of_mem_toString⟩, rfl⟩

theorem isVariable_toString : IsVariable (toString n.toInt).toList := by
  rcases toString_cases n.toInt with digits | ⟨digits, ⟨some_, digit⟩, written⟩
  · exact Or.inl ⟨Decimal.toString_toList_int_ne_nil _, fun c member => Or.inl (Text.isWord_of_isDigit (digits c member))⟩
  · obtain ⟨c, tail, rfl⟩ := List.exists_cons_of_ne_nil some_
    obtain ⟨first, others⟩ := List.forall_mem_cons.mp digit
    exact Or.inr ⟨['-'], c, tail, by simp, first, fun d member => Or.inl (others d member), written⟩

theorem mem_toString_int {c : Char} (member : c ∈ (toString n.toInt).toList) : isDigit c = true ∨ c = '-' := by
  rcases toString_cases n.toInt with digits | ⟨digits, formed, written⟩
  · exact Or.inl (digits c member)
  · rw [written] at member
    exact (List.mem_cons.mp member).symm.imp_left (formed.2 c)

/-- The tag of a number ends at its own closing braces. -/
theorem closed_of_not_mem {word : List Char} (bare : '\x7d' ∉ word) :
    ¬['\x7d', '\x7d'] <:+: ' ' :: (word ++ [' ']) ++ ['\x7d'] := by
  intro pair
  have count := pair.sublist.count_le '\x7d'
  simp [List.count_eq_zero.mpr bare] at count

end

end Template

/-- A whole number has no character with a meaning in markup. -/
theorem Value.render_integer (n : Int64) (autoescape : Bool) :
    (Value.integer n).render autoescape = toString n.toInt := by
  have shown : (Value.integer n).display = toString n.toInt := String.ofList_toList
  have plain : ∀ c ∈ (toString n.toInt).toList, Text.entity c = [c] := by
    intro c member
    rcases Template.mem_toString_int n member with digit | rfl
    · exact Decimal.of_isDigit (P := fun c => Text.entity c = [c]) (by decide) digit
    · rfl
  rw [render, shown, Text.escape_of_plain plain, ite_self]

/-- The template that is a tag of a whole number shows the number. -/
theorem Template.parse_number {catalog : Catalog} {builtins : List String}
    (known : ∀ name ∈ builtins, (catalog.find? name).isSome) (n : Int64) :
    ∃ template, parse catalog builtins ("\x7b\x7b " ++ toString n.toInt ++ " \x7d\x7d") = .ok template ∧
      ∀ context settings, template.render context settings = pure (toString n.toInt) := by
  have bare {c : Char} (digit : Text.isDigit c = false) (minus : c ≠ '-') : c ∉ (toString n.toInt).toList := by
    intro member
    rcases mem_toString_int n member with found | found
    · exact Bool.false_ne_true (digit.symm.trans found)
    · exact minus found
  have formed := isVariable_toString n
  have number := (Operand.ofText_literal formed 3).mpr (.integer (whole_toString n))
  have oneLine := bare (c := '\n') (by decide) (by decide)
  have closed := closed_of_not_mem (bare (by decide) (by decide))
  obtain ⟨registry, read⟩ := parse_operandTag (Or.inr formed) number oneLine closed known
  refine ⟨_, read, fun context settings => ?_⟩
  rw [render_literal, Value.render_integer]

open Decimal (InRange Whole Written) in
/-- A variable of the grammar is a whole number exactly if it is digits behind an optional sign that stay within 64 bits.
It is a double exactly if they do not, or if it is a decimal with a point or an exponent that neither starts like a name
nor ends in a point. All else that is accepted is a path of the very text, and digits alone never are. So the tag of a
number of 64 bits shows the number wherever it is read. -/
theorem Engine.render_numbers :
    (∀ {cs text after : List Char}, Template.takeVariable cs = some (text, after) → ∀ offset,
      let literal (value : Value) := Template.Operand.literal value (.ofLength offset (Text.byteLength text))
      let read := Template.Operand.ofText text offset
      (∀ n, (∃ m : Int64, m.toInt = n ∧ read = .ok (literal (.integer m))) ↔ Whole text n ∧ InRange n) ∧
      ((∃ x, read = .ok (literal (.float x))) ↔
        (∃ n, Whole text n ∧ ¬InRange n) ∨ Template.Fractional text ∧ ∃ reading, Written text reading) ∧
      (∀ x, read = .ok (literal (.float x)) → ∃ reading, Written text reading ∧ x = reading.toFloat) ∧
      (∀ operand, read = .ok operand → (∃ m, operand = literal (.integer m)) ∨ (∃ x, operand = literal (.float x)) ∨
        ∃ path, operand = .path path ∧ path.text = String.ofList text) ∧
      ((∀ c ∈ text, Text.isDigit c = true) → ∃ value, read = .ok (literal value))) ∧
    ∀ (engine : Engine) (n : Int64),
      let read := engine.parse ("\x7b\x7b " ++ toString n.toInt ++ " \x7d\x7d")
      ((∃ template, read = .ok template) ↔ ∀ name ∈ engine.settings.builtins, (engine.catalog.find? name).isSome) ∧
      ∀ template, read = .ok template →
        ∀ context settings, template.render context settings = pure (toString n.toInt) := by
  constructor
  · intro cs text after cut offset literal read
    have variable_ := Template.takeVariable_sound cut
    have denotes (value : Value) : read = .ok (literal value) ↔ Template.Denotes text value :=
      Template.Operand.ofText_literal variable_ offset
    refine ⟨fun n => ?_, ?_, fun x found => ?_, fun operand found => ?_, fun digits => ?_⟩
    · simp only [denotes, Template.denotes_integer_iff]
      constructor
      · rintro ⟨m, rfl, whole⟩
        exact ⟨whole, Decimal.inRange_toInt m⟩
      · rintro ⟨whole, inside⟩
        obtain ⟨m, rfl⟩ := Decimal.inRange_iff.mp inside
        exact ⟨m, rfl, whole⟩
    · simp only [denotes, Template.denotes_float_iff]
      constructor
      · rintro ⟨x, wide | fractional, reading, written, -⟩
        · exact Or.inl wide
        · exact Or.inr ⟨fractional, reading, written⟩
      · rintro (⟨n, whole, outside⟩ | ⟨fractional, reading, written⟩)
        · obtain ⟨reading, written⟩ := whole.written
          exact ⟨_, Or.inl ⟨n, whole, outside⟩, reading, written, rfl⟩
        · exact ⟨_, Or.inr fractional, reading, written, rfl⟩
    · exact (Template.denotes_float_iff.mp ((denotes _).mp found)).2
    · rcases (Template.Operand.ofText_variable variable_ offset).mp found with ⟨value, number, rfl⟩ | ⟨-, -, rfl⟩
      · cases number with
        | integer => exact Or.inl ⟨_, rfl⟩
        | wide => exact Or.inr (Or.inl ⟨_, rfl⟩)
        | fractional => exact Or.inr (Or.inl ⟨_, rfl⟩)
      · exact Or.inr (Or.inr ⟨_, rfl, Template.Path.ofText_text text offset⟩)
    · simp only [denotes]
      exact Template.exists_denotes_of_whole (.signed .none ⟨variable_.ne_nil, digits⟩)
  · intro engine n read
    have known {template : Template} (done : read = .ok template) :
        ∀ name ∈ engine.settings.builtins, (engine.catalog.find? name).isSome := by
      obtain ⟨-, known, -⟩ := Template.parse_eq_ok done
      exact known
    refine ⟨⟨fun ⟨template, done⟩ => known done, fun known => ?_⟩, fun template done => ?_⟩
    · obtain ⟨template, done, -⟩ := Template.parse_number known n
      exact ⟨template, done⟩
    · obtain ⟨other, again, shown⟩ := Template.parse_number (known done) n
      cases done.symm.trans again
      exact shown

/-- The first number above the 64-bit range, zeros before a negative one and a point at the end, and the tag of the least
number of 64 bits. -/
theorem Engine.render_numbers_edges :
    let engine : Engine := ⟨{ builtins := ["custom_filters"] }, Fixture.libraries.catalog⟩
    let wide := "9223372036854775808".toList
    Template.takeVariable (wide ++ ['|']) = some (wide, ['|']) ∧ (∀ c ∈ wide, Text.isDigit c = true) ∧
    (∃ x, Template.Operand.ofText wide 0 = .ok (.literal (.float x) ⟨0, 19⟩)) ∧
    (∃ m : Int64, m.toInt = -7 ∧ Template.Operand.ofText "-007".toList 3 = .ok (.literal (.integer m) ⟨3, 7⟩)) ∧
    (∃ path, Template.Operand.ofText "1.".toList 3 = .ok (.path path) ∧ path.text = "1.") ∧
    (∀ name ∈ engine.settings.builtins, (engine.catalog.find? name).isSome) ∧
    ∃ template, engine.parse "\x7b\x7b -9223372036854775808 \x7d\x7d" = .ok template ∧
      engine.render template .empty = pure "-9223372036854775808" := by
  intro engine wide
  have cut : Template.takeVariable (wide ++ ['|']) = some (wide, ['|']) := by decide +kernel
  have signed : Template.takeVariable "-007".toList = some ("-007".toList, []) := by decide +kernel
  have pointed : Template.takeVariable "1.".toList = some ("1.".toList, []) := by decide +kernel
  have known : ∀ name ∈ engine.settings.builtins, (engine.catalog.find? name).isSome := by decide +kernel
  have digits : ∀ c ∈ wide, Text.isDigit c = true := List.all_eq_true.mp (by decide +kernel)
  have large : Decimal.Whole wide 9223372036854775808 := Decimal.readInt?_eq_some_iff.mp (by decide +kernel)
  have small : Decimal.Whole "-007".toList (-7) := Decimal.readInt?_eq_some_iff.mp (by decide +kernel)
  obtain ⟨literals, tags⟩ := Engine.render_numbers
  obtain ⟨-, doubles, -⟩ := literals cut 0
  obtain ⟨integers, -⟩ := literals signed 3
  obtain ⟨-, -, -, kinds, -⟩ := literals pointed 3
  obtain ⟨accepted, shown⟩ := tags engine Int64.minValue
  obtain ⟨template, read⟩ := accepted.mpr known
  refine ⟨cut, digits, ?_, ?_, ?_, known, template, read, shown template read .empty engine.settings⟩
  · exact doubles.mpr (Or.inl ⟨_, large, by decide⟩)
  · exact (integers (-7)).mpr ⟨small, by decide⟩
  · have read : Template.Operand.ofText "1.".toList 3 = .ok (.path (.ofText "1.".toList 3)) := rfl
    rcases kinds _ read with ⟨_, number⟩ | ⟨_, number⟩ | ⟨path, same, text⟩
    · cases number
    · cases number
    · exact ⟨path, same ▸ read, text⟩

end Stencil
