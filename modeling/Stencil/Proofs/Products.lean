import Stencil.Proofs.Marking
import Stencil.Proofs.NumberLiterals

/-! Products of the sample filters: what the product of two values is, by their kinds, and where it keeps to the rules of a
tower of numbers. -/

set_option autoImplicit false

namespace Stencil

open Decimal (InRange)

namespace Value

theorem utf8ByteSize_copies (s : String) (count : Nat) :
    (String.join (List.replicate count s)).utf8ByteSize = s.utf8ByteSize * count := by
  induction count with
  | zero => rfl
  | succ count ih =>
    rw [List.replicate_succ, String.join_cons, String.utf8ByteSize_append, ih, Nat.mul_succ, Nat.add_comm]

/-- A text is repeated if the result takes fewer than `2 ^ 63` bytes. -/
theorem repeatText_eq (s : String) (count : Nat) : repeatText s count =
    if s.utf8ByteSize * count < 2 ^ 63 then some (String.join (List.replicate count s)) else Option.none := by
  by_cases empty : s.isEmpty
  · obtain rfl := String.isEmpty_iff.mp empty
    have size := utf8ByteSize_copies "" count
    rw [show "".utf8ByteSize = 0 from rfl, Nat.zero_mul] at size ⊢
    rw [String.utf8ByteSize_eq_zero_iff.mp size]
    rfl
  · have bound : Int64.maxValue.toInt.toNat = 2 ^ 63 - 1 := rfl
    simp only [repeatText, empty, Bool.false_eq_true, if_false, bound, Nat.le_sub_one_iff_lt (Nat.two_pow_pos 63)]

end Value

namespace Fixture

/-- A text and a whole number that tells how often it is repeated, in either order. -/
inductive Repeats (s : String) (n : Int64) : Value → Value → Prop
  | textFirst {v : Value} : v.asText? = some s → Repeats s n v (.integer n)
  | countFirst {v : Value} : v.asText? = some s → Repeats s n (.integer n) v

/-- The product of two values: an exact whole number, a double, copies of a text, none for more copies than any memory
holds, or an error. -/
inductive Product : Value → Value → Except HostFailure Value → Prop
  | whole {a b n : Int64} : n.toInt = a.toInt * b.toInt → Product (.integer a) (.integer b) (.ok (.integer n))
  | overflow {a b : Int64} : ¬InRange (a.toInt * b.toInt) →
      Product (.integer a) (.integer b) (.error (.raised (.other "integer overflow")))
  | double {left right : Value} {x y : Float} : left.asFloat? = some x → right.asFloat? = some y →
      (∀ a b, left = .integer a → right ≠ .integer b) → Product left right (.ok (.float (x * y)))
  | copies {left right : Value} {s : String} {n : Int64} : Repeats s n left right →
      s.utf8ByteSize * n.toInt.toNat < 2 ^ 63 →
      Product left right (.ok (.text (String.join (List.replicate n.toInt.toNat s))))
  | exhausted {left right : Value} {s : String} {n : Int64} : Repeats s n left right →
      2 ^ 63 ≤ s.utf8ByteSize * n.toInt.toNat → Product left right (.error .exhausted)
  | unsupported {left right : Value} : left.asFloat? = none ∨ right.asFloat? = none →
      (∀ s n, ¬Repeats s n left right) →
      Product left right (.error (.raised (.unsupportedOperands "*" left.typeName right.typeName)))

section
variable {left right : Value} {s : String} {n : Int64}

theorem Repeats.multiply_eq (repeats : Repeats s n left right) : multiply left right =
    if s.utf8ByteSize * n.toInt.toNat < 2 ^ 63 then .ok (.text (String.join (List.replicate n.toInt.toNat s)))
    else .error .exhausted := by
  have same : multiply left right =
      (Value.repeatText s n.toInt.toNat).elim (.error .exhausted) fun repeated => .ok (.text repeated) := by
    -- Text is repeated whether it is marked or not.
    cases repeats with
    | textFirst text =>
      cases left <;> cases text
      all_goals
        rw [multiply]
        cases Value.repeatText s n.toInt.toNat <;> rfl
    | countFirst text =>
      cases right <;> cases text
      all_goals
        rw [multiply]
        cases Value.repeatText s n.toInt.toNat <;> rfl
  rw [same, Value.repeatText_eq]
  by_cases fits : s.utf8ByteSize * n.toInt.toNat < 2 ^ 63
  · rw [if_pos fits, if_pos fits, Option.elim_some]
  · rw [if_neg fits, if_neg fits, Option.elim_none]

theorem Repeats.product (repeats : Repeats s n left right) : Product left right (multiply left right) := by
  rw [repeats.multiply_eq]
  by_cases fits : s.utf8ByteSize * n.toInt.toNat < 2 ^ 63
  · rw [if_pos fits]
    exact .copies repeats fits
  · rw [if_neg fits]
    exact .exhausted repeats (Nat.not_lt.mp fits)

theorem multiply_product (left right : Value) : Product left right (multiply left right) := by
  unfold multiply
  split
  next a b =>
    dsimp only
    split
    next bounds =>
      obtain ⟨low, high⟩ := Decimal.inRange_iff_bounds.mpr bounds
      exact .whole (Int64.toInt_ofInt_of_le low high)
    next outside => exact .overflow fun inside => outside (Decimal.inRange_iff_bounds.mp inside)
  next s n => exact (Repeats.textFirst rfl).product
  next s n => exact (Repeats.textFirst rfl).product
  next n s => exact (Repeats.countFirst rfl).product
  next n s => exact (Repeats.countFirst rfl).product
  next integers texts safeTexts counts safeCounts =>
    split
    next x y first second => exact .double first second fun a b same other => integers a b same other
    next none =>
      refine .unsupported ?_ ?_
      · by_contra both
        obtain ⟨some_, other⟩ := not_or.mp both
        obtain ⟨x, first⟩ := Option.ne_none_iff_exists'.mp some_
        obtain ⟨y, second⟩ := Option.ne_none_iff_exists'.mp other
        exact none x y first second
      · intro s n repeats
        cases repeats with
        | textFirst text =>
          cases left with
          | text => exact texts _ _ rfl rfl
          | safeText => exact safeTexts _ _ rfl rfl
          | _ => cases text
        | countFirst text =>
          cases right with
          | text => exact counts _ _ rfl rfl
          | safeText => exact safeCounts _ _ rfl rfl
          | _ => cases text

/-- Two numbers of which one at least is no integer have a double as their product. -/
theorem multiply_of_numbers {x y : Float} (first : left.asFloat? = some x) (second : right.asFloat? = some y)
    (other : ∀ a b, left = .integer a → right ≠ .integer b) : multiply left right = .ok (.float (x * y)) := by
  have product := multiply_product left right
  generalize multiply left right = outcome at product
  have text {v : Value} {s : String} {z : Float} (text : v.asText? = some s) (number : v.asFloat? = some z) : False := by
    cases v <;> cases text <;> cases number
  cases product with
  | whole | overflow => exact absurd rfl (other _ _ rfl)
  | double first' second' =>
    cases first.symm.trans first'
    cases second.symm.trans second'
    rfl
  | copies repeats | exhausted repeats =>
    cases repeats with
    | textFirst text' => exact (text text' first).elim
    | countFirst text' => exact (text text' second).elim
  | unsupported none =>
    rw [first, second] at none
    rcases none with none | none <;> cases none

theorem multiply_integers (a b : Int64) :
    (∀ n : Int64, multiply (.integer a) (.integer b) = .ok (.integer n) ↔ n.toInt = a.toInt * b.toInt) ∧
    (multiply (.integer a) (.integer b) = .error (.raised (.other "integer overflow")) ↔
      ¬InRange (a.toInt * b.toInt)) := by
  have product := multiply_product (.integer a) (.integer b)
  generalize multiply (.integer a) (.integer b) = outcome at product
  cases product with
  | whole exact_ =>
    refine ⟨fun n => ?_, ?_⟩
    · rw [← exact_, Int64.toInt_inj]
      constructor
      · rintro ⟨⟩
        rfl
      · rintro rfl
        rfl
    · rw [← exact_]
      exact ⟨nofun, fun outside => absurd (Decimal.inRange_toInt _) outside⟩
  | overflow outside =>
    exact ⟨fun n => ⟨nofun, fun exact_ => absurd (exact_ ▸ Decimal.inRange_toInt n) outside⟩, fun _ => outside,
      fun _ => rfl⟩
  | double _ _ other => exact absurd rfl (other a b rfl)
  | copies repeats | exhausted repeats =>
    cases repeats with
    | textFirst text | countFirst text => cases text
  | unsupported none => rcases none with none | none <;> cases none

end

/-- The rules of a tower of numbers for the product of two values: whole numbers, of which truth values are one and zero,
have their exact product or overflow, a double and a number have a double, and nothing else has. -/
structure FollowsTower (left right : Value) (product : Except HostFailure Value) : Prop where
  whole {a b : Int64} : left.asInteger? = some a → right.asInteger? = some b →
    (∀ n : Int64, product = .ok (.integer n) ↔ n.toInt = a.toInt * b.toInt) ∧
    (product = .error (.raised (.other "integer overflow")) ↔ ¬InRange (a.toInt * b.toInt))
  double {x y : Float} : left.asFloat? = some x → right.asFloat? = some y → left = .float x ∨ right = .float y →
    product = .ok (.float (x * y))
  closed : (∀ x, left ≠ .float x) → (∀ y, right ≠ .float y) → ∀ z, product ≠ .ok (.float z)

/-- Two whole numbers of which one at least is a truth value. -/
inductive MixesTruth : Value → Value → Prop
  | left {truth : Bool} {right : Value} {b : Int64} : right.asInteger? = some b → MixesTruth (.bool truth) right
  | right {left : Value} {truth : Bool} {a : Int64} : left.asInteger? = some a → MixesTruth left (.bool truth)

/-- What a filter of a sample library multiplies a value by, if it multiplies. -/
def factor? (library name : String) (value : Value) (argument : Option Value) : Option Value :=
  match library, name with
  | "custom_filters", "double" => some (.integer 2)
  | "custom_filters", "multiply" => some (argument.getD (.integer 3))
  | "shadow_filters", "double" => some (.integer 3)
  | "more_filters", "square" | "shadow_filters", "square" => some value
  | _, _ => none

section
variable {left right : Value}

theorem MixesTruth.multiply (mixes : MixesTruth left right) {x y : Float} (first : left.asFloat? = some x)
    (second : right.asFloat? = some y) : multiply left right = .ok (.float (x * y)) := by
  refine multiply_of_numbers first second ?_
  rintro a b rfl rfl
  cases mixes

/-- A number that is no double is a truth value or an integer. -/
theorem whole_of_number {v : Value} {x : Float} (number : v.asFloat? = some x) (other : ∀ y, v ≠ .float y) :
    (∃ truth, v = .bool truth) ∨ ∃ n, v = .integer n := by
  cases v with
  | bool truth => exact Or.inl ⟨truth, rfl⟩
  | integer n => exact Or.inr ⟨n, rfl⟩
  | float y => exact absurd rfl (other y)
  | _ => cases number

theorem number_of_whole {v : Value} {n : Int64} (whole : v.asInteger? = some n) :
    (∃ x, v.asFloat? = some x) ∧ ∀ y, v ≠ .float y := by
  cases v with
  | bool truth => exact ⟨⟨_, rfl⟩, nofun⟩
  | integer n => exact ⟨⟨_, rfl⟩, nofun⟩
  | _ => cases whole

/-- A product follows the rules of the tower exactly if it is not one of whole numbers with a truth value among them. -/
theorem followsTower_multiply_iff : FollowsTower left right (multiply left right) ↔ ¬MixesTruth left right := by
  constructor
  · intro follows mixes
    have truth (t : Bool) : ∃ n, (Value.bool t).asInteger? = some n := ⟨_, rfl⟩
    have wholes : (∃ a, left.asInteger? = some a) ∧ ∃ b, right.asInteger? = some b := by
      cases mixes with
      | left whole => exact ⟨truth _, _, whole⟩
      | right whole => exact ⟨⟨_, whole⟩, truth _⟩
    obtain ⟨⟨a, first⟩, b, second⟩ := wholes
    obtain ⟨⟨x, number⟩, single⟩ := number_of_whole first
    obtain ⟨⟨y, number'⟩, single'⟩ := number_of_whole second
    exact follows.closed single single' _ (mixes.multiply number number')
  · intro apart
    refine ⟨fun {a b} first second => ?whole, fun {x y} first second either => ?double, fun single single' z done => ?closed⟩
    case whole =>
      cases left with
      | bool truth => exact absurd (.left second) apart
      | integer a =>
        cases right with
        | bool truth => exact absurd (.right first) apart
        | integer b =>
          cases first
          cases second
          exact multiply_integers a b
        | _ => cases second
      | _ => cases first
    case double =>
      refine multiply_of_numbers first second ?_
      rintro a b rfl rfl
      rcases either with same | same <;> cases same
    case closed =>
      have product := multiply_product left right
      rw [done] at product
      cases product with
      | double first second other =>
        rcases whole_of_number first single with ⟨truth, rfl⟩ | ⟨a, rfl⟩
        · rcases whole_of_number second single' with ⟨truth', rfl⟩ | ⟨b, rfl⟩
          · exact apart (.left rfl)
          · exact apart (.left rfl)
        · rcases whole_of_number second single' with ⟨truth', rfl⟩ | ⟨b, rfl⟩
          · exact apart (.right rfl)
          · exact other a b rfl rfl

end

/-- A filter of a sample library multiplies by its factor if it is one of those that multiply, and never asks for too long a
text if it is none of them. -/
def Acts (library : String) (entry : String × Filter) : Prop :=
  ∀ value argument, match factor? library entry.1 value argument with
    | some factor => entry.2.apply value argument = multiply value factor
    | none => entry.1 ∉ ["double", "multiply", "square"] ∧ entry.2.apply value argument ≠ .error .exhausted

theorem divide_ne_exhausted (left right : Value) : divide left right ≠ .error .exhausted := by
  unfold divide
  split
  next => split <;> exact nofun
  next => exact nofun

theorem acts {library : Library} (member : library ∈ [customFilters, moreFilters, shadowFilters]) :
    ∀ entry ∈ library.filters.entries, Acts library.name entry := by
  have none (name : String) : ∀ entry ∈ (Library.new name).filters.entries, Acts name entry := nofun
  simp only [List.mem_cons, List.not_mem_nil, or_false] at member
  rcases member with rfl | rfl | rfl
  · refine Library.forall_register (Library.forall_register (Library.forall_register (Library.forall_register
      (Library.forall_register (none _) ?cut) ?double) ?multiply) ?divide) ?lower
    case cut | lower => exact fun _ _ => ⟨by decide, nofun⟩
    case double | multiply => exact fun _ _ => rfl
    case divide => exact fun _ _ => ⟨by decide, divide_ne_exhausted _ _⟩
  · exact Library.forall_register (none _) fun _ _ => rfl
  · exact Library.forall_register (Library.forall_register (none _) fun _ _ => rfl) fun _ _ => rfl

/-- The product of two values follows the rules of the tower unless both are whole numbers and one of them is a truth
value; then it is a double. The filters that multiply give such products. -/
theorem multiply_tower (left right : Value) :
    (FollowsTower left right (multiply left right) ↔ ¬MixesTruth left right) ∧
    (∀ {x y}, MixesTruth left right → left.asFloat? = some x → right.asFloat? = some y →
      multiply left right = .ok (.float (x * y))) ∧
    ∀ library ∈ [customFilters, moreFilters, shadowFilters], ∀ name ∈ ["double", "multiply", "square"],
      ∀ filter, library.filter? name = some filter → ∀ argument, ∃ factor,
        factor? library.name name left argument = some factor ∧ filter.apply left argument = multiply left factor := by
  refine ⟨followsTower_multiply_iff, fun mixes => mixes.multiply, ?_⟩
  intro library member name multiplies filter found argument
  have act := acts member _ (Entries.mem_of_get? found) left argument
  cases given : factor? library.name name left argument with
  | some factor =>
    rw [given] at act
    exact ⟨factor, rfl, act⟩
  | none =>
    rw [given] at act
    exact absurd multiplies act.1

/-- A product beyond 64 bits, and the square of a truth value by its filter. -/
theorem multiply_tower_square :
    let largest := Value.integer 9223372036854775807
    FollowsTower largest (.integer 2) (multiply largest (.integer 2)) ∧ MixesTruth (.bool true) (.bool true) ∧
      multiply (.bool true) (.bool true) = .ok (.float (1.0 * 1.0)) ∧
      ∃ filter, moreFilters.filter? "square" = some filter ∧
        filter.apply (.bool true) none = multiply (.bool true) (.bool true) := by
  intro largest
  obtain ⟨follows, -, -⟩ := multiply_tower largest (.integer 2)
  obtain ⟨-, doubles, filters⟩ := multiply_tower (.bool true) (.bool true)
  have apart : ¬MixesTruth (.integer 9223372036854775807) (.integer 2) := nofun
  have mixes : MixesTruth (.bool true) (.bool true) := .left rfl
  refine ⟨follows.mpr apart, mixes, doubles mixes rfl rfl, _, rfl, ?_⟩
  obtain ⟨factor, same, product⟩ := filters moreFilters (by simp) "square" (by decide) _ rfl none
  cases same
  exact product

/-- Twice a truth value is a double, where the rules ask for a whole number. -/
theorem multiply_truth_double :
    (Value.bool true).asInteger? = some 1 ∧ (∀ x, Value.bool true ≠ .float x) ∧
      multiply (.bool true) (.integer 2) = .ok (.float 2.0) ∧
      ¬FollowsTower (.bool true) (.integer 2) (multiply (.bool true) (.integer 2)) := by
  have two : (1.0 : Float) * Value.floatOfInt64 2 = 2.0 := by decide +kernel
  have mixes : MixesTruth (.bool true) (.integer 2) := .left rfl
  refine ⟨rfl, nofun, ?_, fun follows => followsTower_multiply_iff.mp follows mixes⟩
  rw [mixes.multiply rfl rfl]
  exact congrArg (fun x => Except.ok (Value.float x)) two

end Fixture

end Stencil
