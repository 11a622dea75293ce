import Stencil.Proofs.Numerals
import Stencil.Proofs.TextListings
import Stencil.Value

/-! What the listed form of a value tells: all of a value of constants, whole numbers and texts, but for the marks of
texts. -/

set_option autoImplicit false

namespace Stencil

/-- A value made of constants, whole numbers and texts, in lists and dictionaries of any depth. -/
inductive Value.Discrete : Value → Prop
  | none : Discrete .none
  | bool {b : Bool} : Discrete (.bool b)
  | integer {n : Int64} : Discrete (.integer n)
  | text {s : String} : Discrete (.text s)
  | safeText {s : String} : Discrete (.safeText s)
  | list {items : List Value} : (∀ item ∈ items, Discrete item) → Discrete (.list items)
  | dict {entries : List (String × Value)} : (∀ entry ∈ entries, Discrete entry.2) → Discrete (.dict entries)

namespace Value

mutual

/-- The value without the marks of texts that are not to be escaped. -/
def unmarked : Value → Value
  | .safeText s => .text s
  | .list items => .list (unmarkedItems items)
  | .dict entries => .dict (unmarkedEntries entries)
  | v => v

def unmarkedItems : List Value → List Value
  | [] => []
  | v :: rest => v.unmarked :: unmarkedItems rest

def unmarkedEntries : List (String × Value) → List (String × Value)
  | [] => []
  | (k, v) :: rest => (k, v.unmarked) :: unmarkedEntries rest

end

/-- The listed form of an entry. -/
def entryRepr (entry : String × Value) : List Char := Text.quoteChars entry.1.toList ++ [':', ' '] ++ entry.2.repr

/-- The forms of items with a comma and a blank between them. -/
def separated {α : Type} (form : α → List Char) : List α → List Char
  | [] => []
  | x :: xs => form x ++ xs.flatMap fun y => [',', ' '] ++ form y

theorem unmarkedItems_eq (items : List Value) : unmarkedItems items = items.map unmarked := by
  induction items with
  | nil => rfl
  | cons item items ih => rw [unmarkedItems, ih, List.map_cons]

theorem unmarkedEntries_eq (entries : List (String × Value)) :
    unmarkedEntries entries = entries.map fun entry => (entry.1, entry.2.unmarked) := by
  induction entries with
  | nil => rfl
  | cons entry entries ih => rw [unmarkedEntries, ih, List.map_cons]

theorem reprItems_eq (items : List Value) : reprItems items = separated repr items := by
  induction items with
  | nil => rfl
  | cons item items ih =>
    cases items with
    | nil => simp [reprItems, separated]
    | cons next items => simp [reprItems, ih, separated]

theorem reprEntries_eq (entries : List (String × Value)) : reprEntries entries = separated entryRepr entries := by
  induction entries with
  | nil => rfl
  | cons entry entries ih =>
    cases entries with
    | nil => simp [reprEntries, separated, entryRepr]
    | cons next entries => simp [reprEntries, ih, separated, entryRepr]

/-- A character of a listed whole number. -/
def isNumeral (c : Char) : Bool := Text.isDigit c || c == '-'

/-- What follows a listed form does not go on with a number. -/
def Ends (rest : List Char) : Prop := ∀ c, rest.head? = some c → isNumeral c = false

/-- The name of the type whose values are listed with this first character. -/
def leadType? (c : Char) : Option String :=
  if isNumeral c then some "int"
  else if c = 'N' then some "NoneType"
  else if c = 'T' ∨ c = 'F' then some "bool"
  else if c = '"' ∨ c = '\'' then some "str"
  else if c = '[' then some "list"
  else if c = '\x7b' then some "dict"
  else Option.none

theorem isNumeral_of_mem_toString {n : Int} {c : Char} (member : c ∈ (toString n).toList) : isNumeral c = true := by
  have digit {number : Nat} (member : c ∈ (toString number).toList) : isNumeral c = true := by
    rw [isNumeral, Decimal.isDigit_of_mem_toString member, Bool.true_or]
  rw [Decimal.toString_toList_int] at member
  split at member
  next => exact digit member
  next =>
    rcases List.mem_cons.mp member with rfl | member
    · rfl
    · exact digit member

/-- Two whole numbers before what does not go on with a number are the same if the texts are. -/
theorem toString_append_inj {m n : Int64} {rest others : List Char} (ends : Ends rest) (endsOther : Ends others)
    (same : (toString m.toInt).toList ++ rest = (toString n.toInt).toList ++ others) : m = n ∧ rest = others := by
  obtain ⟨number, behind⟩ := Text.run_stop (p := isNumeral) (fun _ => isNumeral_of_mem_toString (n := m.toInt)) ends
  obtain ⟨other, behindOther⟩ :=
    Text.run_stop (p := isNumeral) (fun _ => isNumeral_of_mem_toString (n := n.toInt)) endsOther
  rw [same] at number behind
  have read := congrArg Decimal.readInt? (number.symm.trans other)
  rw [Decimal.readInt?_toString, Decimal.readInt?_toString] at read
  exact ⟨Int64.toInt_inj.mp (Option.some.inj read), behind.symm.trans behindOther⟩

/-- The first character of a listed form tells the type of the value. -/
theorem Discrete.lead {v : Value} (plain : v.Discrete) : ∃ c cs, v.repr = c :: cs ∧ leadType? c = some v.typeName := by
  have text (s : String) : ∃ c cs, Text.quoteChars s.toList = c :: cs ∧ leadType? c = some "str" := by
    refine ⟨_, _, List.cons_append .., ?_⟩
    rcases Text.quoteMark_eq s.toList with mark | mark <;> rw [mark] <;> decide
  cases plain with
  | none => exact ⟨_, _, rfl, by decide⟩
  | @bool b => cases b <;> exact ⟨_, _, rfl, by decide⟩
  | @integer n =>
    obtain ⟨c, cs, number⟩ := List.exists_cons_of_ne_nil (Decimal.toString_toList_int_ne_nil n.toInt)
    have numeral : isNumeral c = true := isNumeral_of_mem_toString (number ▸ List.mem_cons_self)
    exact ⟨c, cs, number, if_pos numeral⟩
  | text => exact text _
  | safeText => exact text _
  | list => exact ⟨_, _, rfl, rfl⟩
  | dict => exact ⟨_, _, rfl, rfl⟩

theorem Discrete.head?_ne {v : Value} (plain : v.Discrete) {close : Char} (none : leadType? close = Option.none)
    (rest : List Char) : (v.repr ++ rest).head? ≠ some close := by
  obtain ⟨c, cs, listed, type⟩ := plain.lead
  rw [listed]
  rintro ⟨⟩
  cases none.symm.trans type

theorem Discrete.typeName_eq {v w : Value} {rest others : List Char} (plain : v.Discrete) (plainOther : w.Discrete)
    (same : v.repr ++ rest = w.repr ++ others) : v.typeName = w.typeName := by
  obtain ⟨c, cs, listed, type⟩ := plain.lead
  obtain ⟨d, ds, listedOther, typeOther⟩ := plainOther.lead
  rw [listed, listedOther, List.cons_append, List.cons_append] at same
  cases (List.cons.inj same).1
  exact Option.some.inj (type.symm.trans typeOther)

section
variable {α β : Type} {form : α → List Char} (key : α → β) {close : Char} {xs ys : List α} {rest others : List Char}

/-- What the forms of items tell, each before what does not go on with a number, the items behind a first one tell. -/
theorem behind_inj (shut : close ≠ ',') (plain : isNumeral close = false)
    (tell : ∀ x ∈ xs, ∀ y ∈ ys, ∀ {rest others}, Ends rest → Ends others → form x ++ rest = form y ++ others →
      key x = key y ∧ rest = others)
    (same : xs.flatMap (fun x => [',', ' '] ++ form x) ++ close :: rest =
      ys.flatMap (fun y => [',', ' '] ++ form y) ++ close :: others) : xs.map key = ys.map key ∧ rest = others := by
  have ends (items : List α) (rest : List Char) :
      Ends (items.flatMap (fun x => [',', ' '] ++ form x) ++ close :: rest) := by
    intro c head
    cases items with
    | nil => cases head; exact plain
    | cons => cases head; rfl
  induction xs generalizing ys with
  | nil =>
    cases ys with
    | nil => exact ⟨rfl, (List.cons.inj same).2⟩
    | cons => exact absurd (List.cons.inj same).1 shut
  | cons x xs ih =>
    cases ys with
    | nil => exact absurd (List.cons.inj same).1.symm shut
    | cons y ys =>
      simp only [List.flatMap_cons, List.append_assoc, List.append_cancel_left_eq] at same
      obtain ⟨here, same⟩ := tell x List.mem_cons_self y List.mem_cons_self (ends xs rest) (ends ys others) same
      obtain ⟨later, behind⟩ := ih (fun x member y among => tell x (List.mem_cons_of_mem _ member) y
        (List.mem_cons_of_mem _ among)) same
      exact ⟨by rw [List.map_cons, List.map_cons, here, later], behind⟩

/-- Items between brackets, of which no form starts with the bracket that closes them. -/
theorem separated_inj (shut : close ≠ ',') (plain : isNumeral close = false)
    (starts : ∀ z, z ∈ xs ∨ z ∈ ys → ∀ rest, (form z ++ rest).head? ≠ some close)
    (tell : ∀ x ∈ xs, ∀ y ∈ ys, ∀ {rest others}, Ends rest → Ends others → form x ++ rest = form y ++ others →
      key x = key y ∧ rest = others)
    (same : separated form xs ++ close :: rest = separated form ys ++ close :: others) :
    xs.map key = ys.map key ∧ rest = others := by
  cases xs with
  | nil =>
    cases ys with
    | nil => exact ⟨rfl, (List.cons.inj same).2⟩
    | cons y ys =>
      rw [separated, separated, List.append_assoc] at same
      exact absurd (congrArg List.head? same).symm (starts y (Or.inr List.mem_cons_self) _)
  | cons x xs =>
    cases ys with
    | nil =>
      rw [separated, separated, List.append_assoc] at same
      exact absurd (congrArg List.head? same) (starts x (Or.inl List.mem_cons_self) _)
    | cons y ys =>
      -- With a comma before each, the first items are like those behind them.
      have behind : (x :: xs).flatMap (fun z => [',', ' '] ++ form z) ++ close :: rest =
          (y :: ys).flatMap (fun z => [',', ' '] ++ form z) ++ close :: others := by
        simp only [separated, List.append_assoc] at same
        simp only [List.flatMap_cons, List.append_assoc, same]
      exact behind_inj key shut plain tell behind

end

theorem entryRepr_head?_ne {close : Char} (none : leadType? close = Option.none) (entry : String × Value)
    (rest : List Char) : (entryRepr entry ++ rest).head? ≠ some close := by
  rw [entryRepr, List.append_assoc, List.append_assoc]
  exact Discrete.head?_ne (v := .text entry.1) .text none _

/-- The listed form of a value tells the value but for the marks of texts, whatever follows it but a number. -/
theorem Discrete.repr_append_inj {v w : Value} {rest others : List Char} (plain : v.Discrete) (plainOther : w.Discrete)
    (ends : Ends rest) (endsOther : Ends others) (same : v.repr ++ rest = w.repr ++ others) :
    v.unmarked = w.unmarked ∧ rest = others := by
  have text {s t : String} {rest others : List Char}
      (same : Text.quoteChars s.toList ++ rest = Text.quoteChars t.toList ++ others) :
      Value.text s = .text t ∧ rest = others :=
    (Text.quoteChars_append_inj same).imp_left fun texts => congrArg _ (String.toList_inj.mp texts)
  -- The first characters leave only values of one type; then the constructors of both are gone through together.
  induction plain generalizing w rest others with
  | none =>
    have kinds := Discrete.none.typeName_eq plainOther same
    cases plainOther with
    | none => exact ⟨rfl, List.append_cancel_left same⟩
    | _ => simp [typeName] at kinds
  | @bool b =>
    have kinds := Discrete.bool.typeName_eq plainOther same
    cases plainOther with
    | @bool c =>
      cases b <;> cases c
      case true.true => exact ⟨rfl, List.append_cancel_left same⟩
      case false.false => exact ⟨rfl, List.append_cancel_left same⟩
      all_goals exact absurd (List.cons.inj same).1 (by decide)
    | _ => simp [typeName] at kinds
  | integer =>
    have kinds := Discrete.integer.typeName_eq plainOther same
    cases plainOther with
    | integer =>
      obtain ⟨rfl, behind⟩ := toString_append_inj ends endsOther same
      exact ⟨rfl, behind⟩
    | _ => simp [typeName] at kinds
  | text =>
    have kinds := Discrete.text.typeName_eq plainOther same
    cases plainOther with
    | text => exact text same
    | safeText => exact text same
    | _ => simp [typeName] at kinds
  | safeText =>
    have kinds := Discrete.safeText.typeName_eq plainOther same
    cases plainOther with
    | text => exact text same
    | safeText => exact text same
    | _ => simp [typeName] at kinds
  | @list items plain ih =>
    have kinds := (Discrete.list plain).typeName_eq plainOther same
    cases plainOther with
    | @list items' plain' =>
      have inner : separated repr items ++ ']' :: rest = separated repr items' ++ ']' :: others := by
        simpa [repr, reprItems_eq] using same
      obtain ⟨items, behind⟩ := separated_inj unmarked (by decide) (by decide)
        (fun v among => (among.elim (plain v) (plain' v)).head?_ne (by decide))
        (fun v member w among => ih v member (plain' w among)) inner
      exact ⟨by simp only [unmarked, unmarkedItems_eq, items], behind⟩
    | _ => simp [typeName] at kinds
  | @dict entries plain ih =>
    have kinds := (Discrete.dict plain).typeName_eq plainOther same
    cases plainOther with
    | @dict entries' plain' =>
      have inner : separated entryRepr entries ++ '\x7d' :: rest = separated entryRepr entries' ++ '\x7d' :: others := by
        simpa [repr, reprEntries_eq] using same
      have tell : ∀ entry ∈ entries, ∀ entry' ∈ entries', ∀ {rest others}, Ends rest → Ends others →
          entryRepr entry ++ rest = entryRepr entry' ++ others →
          (entry.1, entry.2.unmarked) = (entry'.1, entry'.2.unmarked) ∧ rest = others := by
        intro entry member entry' among rest others ends endsOther same
        simp only [entryRepr, List.append_assoc] at same
        obtain ⟨key, same⟩ := Text.quoteChars_append_inj same
        obtain ⟨value, behind⟩ := ih entry member (plain' entry' among) ends endsOther (List.append_cancel_left same)
        exact ⟨Prod.ext (String.toList_inj.mp key) value, behind⟩
      obtain ⟨entries, behind⟩ := separated_inj (fun entry => (entry.1, entry.2.unmarked)) (by decide) (by decide)
        (fun entry _ => entryRepr_head?_ne (by decide) entry) tell inner
      exact ⟨by simp only [unmarked, unmarkedEntries_eq, entries], behind⟩
    | _ => simp [typeName] at kinds

theorem separated_map {α β : Type} {form : β → List Char} {other : α → List Char} {f : α → β} {xs : List α}
    (same : ∀ x ∈ xs, form (f x) = other x) : separated form (xs.map f) = separated other xs := by
  cases xs with
  | nil => rfl
  | cons x xs =>
    obtain ⟨here, behind⟩ := List.forall_mem_cons.mp same
    have later : xs.flatMap (fun y => [',', ' '] ++ form (f y)) = xs.flatMap fun y => [',', ' '] ++ other y := by
      rw [List.flatMap_def, List.flatMap_def, List.map_congr_left fun y member => congrArg _ (behind y member)]
    rw [List.map_cons, separated, separated, here, List.flatMap_map, later]

/-- Marks do not show in a listed form. -/
theorem Discrete.repr_unmarked {v : Value} (plain : v.Discrete) : v.unmarked.repr = v.repr := by
  induction plain with
  | none | bool | integer | text | safeText => rfl
  | list _ ih => rw [unmarked, unmarkedItems_eq, repr, repr, reprItems_eq, reprItems_eq, separated_map ih]
  | @dict entries _ ih =>
    have same : ∀ entry ∈ entries, entryRepr (entry.1, entry.2.unmarked) = entryRepr entry :=
      fun entry member => congrArg (Text.quoteChars entry.1.toList ++ [':', ' '] ++ ·) (ih entry member)
    rw [unmarked, unmarkedEntries_eq, repr, repr, reprEntries_eq, reprEntries_eq, separated_map same]

/-- Equal listed forms are those of equal values, but for the marks of texts; entries are told in their order. The
listing of a text is a literal that stands for it. -/
theorem reprText_identifies :
    (∀ {v w : Value}, v.Discrete → w.Discrete → (v.reprText = w.reprText ↔ v.unmarked = w.unmarked)) ∧
      (∀ text, Text.ofLiteral? (Text.quote text) = some text) ∧ Function.Injective Text.quote := by
  refine ⟨fun {v w} plain plainOther => ⟨fun same => ?_, fun same => ?_⟩, Text.ofLiteral?_quote, fun s t same => ?_⟩
  · have nothing : Ends [] := nofun
    have listed : v.repr ++ [] = w.repr ++ [] := congrArg (· ++ []) (String.ofList_injective same)
    exact (plain.repr_append_inj plainOther nothing nothing listed).1
  · rw [reprText, reprText, ← plain.repr_unmarked, ← plainOther.repr_unmarked, same]
  · exact Option.some.inj ((Text.ofLiteral?_quote s).symm.trans ((congrArg _ same).trans (Text.ofLiteral?_quote t)))

/-- Texts with both quote marks and all that stands between items, one of them marked in one value only. -/
theorem reprText_identifies_nested :
    let value (text : Value) := Value.dict [("it's", .list [text, .none, .integer (-1), .dict []]), ("\\", .bool true)]
    let plain := value (.text "', \"\n], 'b': ")
    let marked := value (.safeText "', \"\n], 'b': ")
    plain.Discrete ∧ marked.Discrete ∧ plain.reprText = marked.reprText ∧ plain.unmarked = marked.unmarked := by
  intro value plain marked
  have discrete {text : Value} (known : text.Discrete) : (value text).Discrete := by
    refine .dict (List.forall_mem_cons.mpr ⟨.list ?_, List.forall_mem_singleton.mpr .bool⟩)
    simp only [List.forall_mem_cons, List.not_mem_nil, false_implies, implies_true, and_true]
    exact ⟨known, .none, .integer, .dict nofun⟩
  have same : plain.reprText = marked.reprText := by decide +kernel
  exact ⟨discrete .text, discrete .safeText, same,
    (reprText_identifies.1 (discrete .text) (discrete .safeText)).mp same⟩

end Value

end Stencil
