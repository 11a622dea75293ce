import Stencil.Proofs.Numerals
import Stencil.Resolution

/-! What the names of a path lead to, one after the other, told without the resolver, and how a path fails. -/

set_option autoImplicit false

namespace Stencil

/-- The name is written in ASCII digits and stands for the number. -/
structure Denotes (name : String) (number : Nat) : Prop where
  some_ : name ≠ ""
  digits : ∀ c ∈ name.toList, '0' ≤ c ∧ c ≤ '9'
  value : number = Nat.ofDigits 10 (name.toList.reverse.map fun c => c.toNat - '0'.toNat)

/-- The name stands for a number that fits into 64 bits. -/
structure IsIndex (name : String) (number : Nat) : Prop where
  denotes : Denotes name number
  small : number < UInt64.size

/-- What a name finds in a value: the entry of a dictionary, the item of a list or character of a text of the number
that the name is read as, or the member of a host object. -/
inductive Value.FindsBy (reads : String → Nat → Prop) : Value → String → Attribute Value → Prop
  | entry {entries : Entries Value} {name : String} {value : Value} :
      entries.get? name = some value → FindsBy reads (.dict entries) name (.value value)
  | item {items : List Value} {name : String} {number : Nat} {value : Value} :
      reads name number → items[number]? = some value → FindsBy reads (.list items) name (.value value)
  | character {text name : String} {number : Nat} {c : Char} :
      reads name number → text.toList[number]? = some c →
      FindsBy reads (.text text) name (.value (.text (String.singleton c)))
  | safeCharacter {text name : String} {number : Nat} {c : Char} :
      reads name number → text.toList[number]? = some c →
      FindsBy reads (.safeText text) name (.value (.text (String.singleton c)))
  | member {object : HostObject Value} {name : String} {found : Attribute Value} :
      object.member? name = some found → FindsBy reads (.object object) name found

/-- A value leads to another by names, each looked up in the value before it; an accessor leads to what it gives. -/
inductive Value.LeadsBy (reads : String → Nat → Prop) : Value → List String → Value → Prop
  | here {value : Value} : LeadsBy reads value [] value
  | next {value middle last : Value} {name : String} {names : List String} {found : Attribute Value} :
      value.FindsBy reads name found → found.resolve = .ok middle → LeadsBy reads middle names last →
      LeadsBy reads value (name :: names) last

/-- Names lead to a value, the first of them looked up in the context. -/
def Context.LeadsBy (reads : String → Nat → Prop) (context : Context) : List String → Value → Prop
  | [], _ => False
  | name :: names, last => ∃ value, context.get? name = some value ∧ value.LeadsBy reads names last

namespace Template

/-- How a path fails: at a first name that no scope binds, at a later name that the value before it does not have,
or at an accessor that raises an error. All names before the one it fails at lead to a value. -/
inductive Path.FailsBy (reads : String → Nat → Prop) (path : Path) (context : Context) : RenderError → Prop
  | nameless : path.segments = [] → FailsBy reads path context (.missing "" context.repr path.span none)
  | unbound {first : Segment} {rest : List Segment} : path.segments = first :: rest →
      context.get? first.name = none → FailsBy reads path context (.missing first.name context.repr first.span none)
  | absent {before after : List Segment} {last segment : Segment} {value : Value} :
      path.segments = before ++ last :: segment :: after →
      context.LeadsBy reads ((before ++ [last]).map (·.name)) value →
      (∀ found, ¬value.FindsBy reads segment.name found) →
      FailsBy reads path context
        (.missing segment.name value.reprText segment.span (some ⟨path.span.start, last.span.stop⟩))
  | raised {before after : List Segment} {segment : Segment} {value : Value} {found : Attribute Value}
      {error : HostError} : path.segments = before ++ segment :: after →
      context.LeadsBy reads (before.map (·.name)) value → value.FindsBy reads segment.name found →
      found.resolve = .error error → FailsBy reads path context (.host error)

end Template

/-- What a name finds in a value if numbers are read as indices. -/
abbrev Value.Finds : Value → String → Attribute Value → Prop := Value.FindsBy IsIndex

abbrev Value.Leads : Value → List String → Value → Prop := Value.LeadsBy IsIndex

abbrev Context.Leads : Context → List String → Value → Prop := Context.LeadsBy IsIndex

abbrev Template.Path.Fails : Path → Context → RenderError → Prop := Path.FailsBy IsIndex

theorem index?_eq_some_iff {name : String} {number : Nat} : index? name = some number ↔ IsIndex name number := by
  have value := Decimal.ofDigits_eq name.toList
  constructor
  · intro found
    unfold index? at found
    split at found
    next => cases found
    next written =>
      obtain ⟨read, small⟩ := Option.filter_eq_some_iff.mp found
      cases read
      rw [Bool.or_eq_true, not_or, Bool.not_eq_true, Bool.not_eq_true, Bool.not_eq_false'] at written
      exact ⟨⟨by simpa using written.1, by simpa [Text.isDigit] using written.2, value⟩, of_decide_eq_true small⟩
  · rintro ⟨⟨some_, digits, rfl⟩, small⟩
    have all : name.toList.all Text.isDigit = true := by
      simpa [List.all_eq_true, Text.isDigit] using digits
    rw [index?, all, if_neg (by simpa using some_), value, Option.filter_some, if_pos (decide_eq_true small)]

theorem Value.attribute?_eq_some_iff {v : Value} {name : String} {found : Attribute Value} :
    v.attribute? name = some found ↔ v.Finds name found := by
  constructor
  · intro has
    cases v with
    | dict entries =>
      obtain ⟨value, entry, rfl⟩ := Option.map_eq_some_iff.mp has
      exact .entry entry
    | list items =>
      obtain ⟨number, written, found⟩ := Option.bind_eq_some_iff.mp has
      obtain ⟨value, item, rfl⟩ := Option.map_eq_some_iff.mp found
      exact .item (index?_eq_some_iff.mp written) item
    | text s =>
      obtain ⟨number, written, found⟩ := Option.bind_eq_some_iff.mp has
      obtain ⟨c, character, rfl⟩ := Option.map_eq_some_iff.mp found
      exact .character (index?_eq_some_iff.mp written) character
    | safeText s =>
      obtain ⟨number, written, found⟩ := Option.bind_eq_some_iff.mp has
      obtain ⟨c, character, rfl⟩ := Option.map_eq_some_iff.mp found
      exact .safeCharacter (index?_eq_some_iff.mp written) character
    | object o => exact .member has
    | none => cases has
    | bool => cases has
    | integer => cases has
    | float => cases has
  · intro finds
    cases finds with
    | entry entry => exact Option.map_eq_some_iff.mpr ⟨_, entry, rfl⟩
    | item written item =>
      exact Option.bind_eq_some_iff.mpr
        ⟨_, index?_eq_some_iff.mpr written, Option.map_eq_some_iff.mpr ⟨_, item, rfl⟩⟩
    | character written character =>
      exact Option.bind_eq_some_iff.mpr
        ⟨_, index?_eq_some_iff.mpr written, Option.map_eq_some_iff.mpr ⟨_, character, rfl⟩⟩
    | safeCharacter written character =>
      exact Option.bind_eq_some_iff.mpr
        ⟨_, index?_eq_some_iff.mpr written, Option.map_eq_some_iff.mpr ⟨_, character, rfl⟩⟩
    | member has => exact has

theorem Value.attribute?_eq_none_iff {v : Value} {name : String} :
    v.attribute? name = Option.none ↔ ∀ found, ¬v.Finds name found := by
  simp only [Option.eq_none_iff_forall_ne_some, ne_eq, attribute?_eq_some_iff]

section
variable {reads : String → Nat → Prop} {value middle last : Value} {names more : List String}

theorem Value.LeadsBy.append (leads : value.LeadsBy reads names middle) (further : middle.LeadsBy reads more last) :
    value.LeadsBy reads (names ++ more) last := by
  induction leads with
  | here => exact further
  | next finds resolved _ ih => exact .next finds resolved (ih further)

theorem Context.LeadsBy.append {context : Context} (leads : context.LeadsBy reads names middle)
    (further : middle.LeadsBy reads more last) : context.LeadsBy reads (names ++ more) last := by
  cases names with
  | nil => exact leads.elim
  | cons name names =>
    obtain ⟨value, bound, leads⟩ := leads
    exact ⟨value, bound, leads.append further⟩

end

theorem Attribute.evaluate_outcome (found : Attribute Value) (owner : Value) (name : String) :
    (found.evaluate owner name).outcome = found.resolve.mapError .host := by
  cases found <;> rfl

namespace Template

variable {path : Path} {context : Context} {current value : Value}

theorem Path.follow_of_absent {index : Nat} {segment : Segment} {rest : List Segment}
    (absent : ∀ found, ¬current.Finds segment.name found) : (path.follow index current (segment :: rest)).outcome =
      .error (.missing segment.name current.reprText segment.span (some (path.prefixSpan index))) := by
  simp only [follow, Value.attribute?_eq_none_iff.mpr absent]
  rfl

theorem Path.follow_of_finds {index : Nat} {segment : Segment} {rest : List Segment} {found : Attribute Value}
    (finds : current.Finds segment.name found) : (path.follow index current (segment :: rest)).outcome =
      match found.resolve with
      | .ok next => (path.follow (index + 1) next rest).outcome
      | .error error => .error (.host error) := by
  simp only [follow, Value.attribute?_eq_some_iff.mpr finds]
  cases resolved : found.resolve with
  | ok next =>
    have evaluated : (found.evaluate current segment.name).outcome = .ok next := by
      rw [Attribute.evaluate_outcome, resolved]
      rfl
    rw [Evaluation.bind_ok evaluated]
  | error error =>
    have evaluated : (found.evaluate current segment.name).outcome = .error (.host error) := by
      rw [Attribute.evaluate_outcome, resolved]
      rfl
    rw [Evaluation.bind_error evaluated]

/-- Where the names at the front lead to a value, the rest of the path is followed from there. -/
theorem Path.follow_append {before : List Segment} (leads : current.Leads (before.map (·.name)) value) (index : Nat)
    (rest : List Segment) : (path.follow index current (before ++ rest)).outcome =
      (path.follow (index + before.length) value rest).outcome := by
  induction before generalizing current index with
  | nil =>
    cases leads
    rfl
  | cons segment before ih =>
    cases leads with
    | next finds resolved leads =>
      rw [List.cons_append, follow_of_finds finds, resolved]
      simp only
      rw [ih leads, List.length_cons, Nat.add_assoc, Nat.add_comm 1]

theorem Path.resolve_append {before : List Segment} (leads : context.Leads (before.map (·.name)) value)
    {rest : List Segment} (split : path.segments = before ++ rest) :
    (path.resolve context).outcome = (path.follow (before.length - 1) value rest).outcome := by
  cases before with
  | nil => exact leads.elim
  | cons first before =>
    obtain ⟨start, bound, leads⟩ := leads
    rw [resolve, split]
    simp only [List.cons_append, bound]
    rw [follow_append leads, Nat.zero_add, List.length_cons, Nat.add_sub_cancel]

theorem Path.prefixSpan_of_split {before after : List Segment} {last : Segment}
    (split : path.segments = before ++ last :: after) :
    path.prefixSpan before.length = ⟨path.span.start, last.span.stop⟩ := by
  rw [prefixSpan, split, List.getElem?_append_right (Nat.le_refl _), Nat.sub_self]
  rfl

/-- What is told when the rest of a path is followed: the value it leads to, or how the whole path fails. -/
def Path.Answers (path : Path) (context : Context) : Except RenderError Value → Prop
  | .ok value => context.Leads (path.segments.map (·.name)) value
  | .error error => path.Fails context error

theorem Path.follow_answers {before rest : List Segment} {last : Segment}
    (split : path.segments = before ++ last :: rest)
    (leads : context.Leads ((before ++ [last]).map (·.name)) current) :
    path.Answers context (path.follow before.length current rest).outcome := by
  -- Each step moves a name from the rest to the front, which goes on leading to the current value.
  induction rest generalizing before last current with
  | nil =>
    show context.Leads _ _
    rwa [split]
  | cons segment rest ih =>
    cases has : current.attribute? segment.name with
    | none =>
      have absent := Value.attribute?_eq_none_iff.mp has
      rw [follow_of_absent absent, prefixSpan_of_split split]
      exact .absent split leads absent
    | some found =>
      have finds := Value.attribute?_eq_some_iff.mp has
      have longer : path.segments = (before ++ [last]) ++ segment :: rest := by rw [split]; simp
      rw [follow_of_finds finds]
      cases resolved : found.resolve with
      | error error => exact .raised longer leads finds resolved
      | ok next =>
        have further := leads.append (.next finds resolved .here)
        have answers := ih longer (by rwa [List.map_append])
        rwa [List.length_append] at answers

theorem Path.resolve_answers (path : Path) (context : Context) :
    path.Answers context (path.resolve context).outcome := by
  rw [resolve]
  split
  next none => exact .nameless none
  next first rest split =>
    split
    next none => exact .unbound split none
    next value bound => exact @follow_answers path context value [] rest first split ⟨value, bound, .here⟩

theorem Path.resolve_of_fails {error : RenderError} (fails : path.Fails context error) :
    (path.resolve context).outcome = .error error := by
  cases fails with
  | nameless none =>
    rw [resolve, none]
    rfl
  | unbound split none =>
    rw [resolve, split]
    simp only [none]
    rfl
  | @absent before after last segment value split leads absent =>
    have cut : path.segments = (before ++ [last]) ++ segment :: after := by rw [split]; simp
    rw [resolve_append leads cut, follow_of_absent absent, List.length_append, List.length_singleton,
      Nat.add_sub_cancel, prefixSpan_of_split split]
  | raised split leads finds raised => rw [resolve_append leads split, follow_of_finds finds, raised]

theorem Path.resolve_of_leads (leads : context.Leads (path.segments.map (·.name)) value) :
    (path.resolve context).outcome = .ok value := by
  rw [resolve_append leads (List.append_nil _).symm]
  rfl

theorem Path.resolve_eq_ok_iff :
    (path.resolve context).outcome = .ok value ↔ context.Leads (path.segments.map (·.name)) value := by
  refine ⟨fun done => ?_, resolve_of_leads⟩
  have answers := path.resolve_answers context
  rwa [done] at answers

theorem Path.resolve_eq_error_iff {error : RenderError} :
    (path.resolve context).outcome = .error error ↔ path.Fails context error := by
  refine ⟨fun failed => ?_, resolve_of_fails⟩
  have answers := path.resolve_answers context
  rwa [failed] at answers

end Template

end Stencil
