import Stencil.Conversion
import Stencil.Fixture.Article
import Stencil.Fixture.Filters
import Stencil.Proofs.Loading
import Stencil.Proofs.Traversal

/-! Where text that is not to be escaped can come from: neither from plain data and sample objects nor from the
sample filters. -/

set_option autoImplicit false

namespace Stencil

namespace Entries

variable {α : Type} {entries : Entries α} {key : String} {value : α}

theorem mem_of_mem_insert {entry : String × α} (member : entry ∈ entries.insert key value) :
    entry ∈ entries ∨ entry = (key, value) := by
  induction entries with
  | nil => exact Or.inr (List.mem_singleton.mp member)
  | cons head rest ih =>
    obtain ⟨k, v⟩ := head
    rw [insert] at member
    split at member
    next same =>
      rcases List.mem_cons.mp member with rfl | member
      · exact Or.inr (by rw [same])
      · exact Or.inl (List.mem_cons_of_mem _ member)
    next =>
      rcases List.mem_cons.mp member with rfl | member
      · exact Or.inl List.mem_cons_self
      · exact (ih member).imp_left (List.mem_cons_of_mem _)

theorem mem_of_mem_insertAll {entry : String × α} {pairs : List (String × α)}
    (member : entry ∈ entries.insertAll pairs) :
    entry ∈ entries ∨ ∃ pair ∈ pairs, pair.2 = entry.2 := by
  induction pairs generalizing entries with
  | nil => exact Or.inl member
  | cons pair pairs ih =>
    rcases ih member with member | ⟨other, among, same⟩
    · rcases mem_of_mem_insert member with member | rfl
      · exact Or.inl member
      · exact Or.inr ⟨pair, List.mem_cons_self, rfl⟩
    · exact Or.inr ⟨other, List.mem_cons_of_mem pair among, same⟩

end Entries

/-- A value made of plain data and articles. -/
inductive Value.Plain : Value → Prop
  | none : Plain .none
  | bool {b : Bool} : Plain (.bool b)
  | integer {n : Int64} : Plain (.integer n)
  | float {x : Float} : Plain (.float x)
  | text {s : String} : Plain (.text s)
  | list {items : List Value} : (∀ item ∈ items, Plain item) → Plain (.list items)
  | dict {entries : List (String × Value)} : (∀ entry ∈ entries, Plain entry.2) → Plain (.dict entries)
  | article {identity : Nat} {title : String} {tags : List String} :
      Plain (.object (Fixture.article identity title tags))

/-- A context in which all names are bound to plain values. -/
def Context.Plain (context : Context) : Prop :=
  ∀ scope ∈ context.base :: context.pushed, ∀ entry ∈ scope.entries, entry.2.Plain

mutual

theorem Json.toValue_plain : ∀ json : Json, json.toValue.Plain
  | .null => .none
  | .bool _ => .bool
  | .number (.integer n) => by
    rw [toValue, Number.toValue]
    split
    next => exact .integer
    next => exact .float
  | .number (.float _) => .float
  | .string _ => .text
  | .array items => .list (Json.toValues_plain items)
  | .object entries => .dict (Json.toEntries_plain entries)

theorem Json.toValues_plain : ∀ (items : List Json), ∀ value ∈ Json.toValues items, value.Plain
  | [] => nofun
  | json :: rest => List.forall_mem_cons.mpr ⟨json.toValue_plain, Json.toValues_plain rest⟩

theorem Json.toEntries_plain : ∀ (entries : List (String × Json)), ∀ entry ∈ Json.toEntries entries, entry.2.Plain
  | [] => nofun
  | (_, json) :: rest => List.forall_mem_cons.mpr ⟨json.toValue_plain, Json.toEntries_plain rest⟩

end

theorem Context.ofScope_plain {pairs : List (String × Value)} (plain : ∀ pair ∈ pairs, pair.2.Plain) :
    (ofScope (OrderedMap.ofPairs pairs)).Plain := by
  intro scope member entry among
  rw [List.mem_singleton.mp member, ofScope, OrderedMap.ofPairs, OrderedMap.entries_insertAll] at among
  rcases Entries.mem_of_mem_insertAll among with none | ⟨pair, given, same⟩
  · cases none
  · exact same ▸ plain pair given

theorem Context.ofJson?_plain {text : String} {context : Context} (read : ofJson? text = some context) :
    context.Plain := by
  unfold ofJson? at read
  split at read
  next entries _ =>
    cases read
    exact ofScope_plain (Json.toEntries_plain entries)
  next => cases read

/-- A name may be bound to a plain value at any time. -/
theorem Context.Plain.set {context : Context} {name : String} {value : Value} (plain : context.Plain)
    (bound : value.Plain) : (context.set name value).Plain := by
  have insert {scope : Scope} (plain : ∀ entry ∈ scope.entries, entry.2.Plain) :
      ∀ entry ∈ (scope.insert name value).entries, entry.2.Plain := by
    intro entry member
    rcases Entries.mem_of_mem_insert member with member | rfl
    · exact plain entry member
    · exact bound
  obtain ⟨base, pushed⟩ := context
  obtain ⟨first, others⟩ := List.forall_mem_cons.mp plain
  cases pushed with
  | nil => exact List.forall_mem_cons.mpr ⟨insert first, others⟩
  | cons top rest =>
    obtain ⟨top, rest⟩ := List.forall_mem_cons.mp others
    exact List.forall_mem_cons.mpr ⟨first, List.forall_mem_cons.mpr ⟨insert top, rest⟩⟩

theorem Value.Plain.isSafe {v : Value} (plain : v.Plain) : v.isSafe = false := by
  cases plain <;> rfl

/-- What a name finds in a plain value is plain. -/
theorem Value.Plain.resolve {v value : Value} {name : String} {found : Attribute Value} (plain : v.Plain)
    (finds : v.Finds name found) (resolved : found.resolve = .ok value) : value.Plain := by
  cases finds with
  | entry entry =>
    cases resolved
    cases plain with
    | dict plain => exact plain _ (Entries.mem_of_get? entry)
  | item _ item =>
    cases resolved
    cases plain with
    | list plain => exact plain _ (List.mem_of_getElem? item)
  | character =>
    cases resolved
    exact .text
  | safeCharacter => cases plain
  | member member =>
    cases plain with
    | article =>
      simp only [Fixture.article] at member
      split at member <;> cases member <;> cases resolved
      · exact .text
      · exact .list fun _ tag => by obtain ⟨_, _, rfl⟩ := List.mem_map.mp tag; exact .text
      · exact .text

theorem Value.Plain.leads {v value : Value} {names : List String} (plain : v.Plain) (leads : v.Leads names value) :
    value.Plain := by
  induction leads with
  | here => exact plain
  | next finds resolved _ ih => exact ih (plain.resolve finds resolved)

section
variable {context : Context} {value : Value}

theorem Context.Plain.get? {name : String} (plain : context.Plain) (bound : context.get? name = some value) :
    value.Plain := by
  obtain ⟨scope, member, bound⟩ := List.exists_of_findSome?_eq_some bound
  have entry := Entries.mem_of_get? bound
  have member : (scope ∈ context.pushed ∨ scope = context.base) ∨ scope = .builtins := by
    simpa [topDown, or_assoc] using member
  rcases member with (pushed | rfl) | rfl
  · exact plain _ (List.mem_cons_of_mem _ pushed) _ entry
  · exact plain _ List.mem_cons_self _ entry
  · -- The names that every context has stand for constants.
    have plain : ∀ pair ∈ Scope.builtins.entries, pair.2.Plain :=
      List.forall_mem_cons.mpr ⟨.bool, List.forall_mem_cons.mpr ⟨.bool, List.forall_mem_singleton.mpr .none⟩⟩
    exact plain _ entry

theorem Template.Path.resolve_plain {path : Path} (plain : context.Plain)
    (done : (path.resolve context).outcome = .ok value) : value.Plain := by
  have leads := Path.resolve_eq_ok_iff.mp done
  cases names : path.segments.map (·.name) with
  | nil =>
    rw [names] at leads
    exact leads.elim
  | cons name names' =>
    rw [names] at leads
    obtain ⟨start, bound, leads⟩ := leads
    exact (plain.get? bound).leads leads

end

/-- No result of the filter itself is safe. -/
def Filter.Unmarking (filter : Filter) : Prop :=
  ∀ value argument output, filter.apply value argument = .ok output → output.isSafe = false

def Library.Unmarking (library : Library) : Prop := ∀ entry ∈ library.filters.entries, entry.2.Unmarking

def Catalog.Unmarking (catalog : Catalog) : Prop :=
  ∀ name library, catalog.find? name = some library → library.Unmarking

theorem Library.new_unmarking (name : String) : (new name).Unmarking := nofun

/-- What is told of all filters of a library stays so with one more of which it is told. -/
theorem Library.forall_register {library : Library} {name : String} {filter : Filter} {told : String × Filter → Prop}
    (filters : ∀ entry ∈ library.filters.entries, told entry) (added : told (name, filter)) :
    ∀ entry ∈ (library.register name filter).filters.entries, told entry := by
  intro entry member
  rcases Entries.mem_of_mem_insert member with old | rfl
  · exact filters entry old
  · exact added

theorem Library.Unmarking.register {library : Library} {name : String} {filter : Filter} (filters : library.Unmarking)
    (unmarking : filter.Unmarking) : (library.register name filter).Unmarking :=
  Library.forall_register filters unmarking

/-- A library that is found is one of those that were registered. -/
theorem Libraries.mem_of_find? {libraries : List Library} {name : String} {library : Library}
    (found : (catalog (libraries.foldl Libraries.register .empty)).find? name = some library) : library ∈ libraries := by
  -- Each library joins those registered before it, so this is told of any start.
  suffices ∀ start : Libraries, ∀ entry ∈ (libraries.foldl Libraries.register start).entries,
      entry ∈ start.entries ∨ entry.2 ∈ libraries by
    exact (this .empty _ (Entries.mem_of_get? found)).resolve_left List.not_mem_nil
  clear found
  induction libraries with
  | nil => exact fun _ _ => Or.inl
  | cons here libraries ih =>
    intro start entry member
    rcases ih _ entry member with member | later
    · rcases Entries.mem_of_mem_insert member with old | rfl
      · exact Or.inl old
      · exact Or.inr List.mem_cons_self
    · exact Or.inr (List.mem_cons_of_mem here later)

theorem Libraries.catalog_unmarking {libraries : List Library} (unmarking : ∀ library ∈ libraries, library.Unmarking) :
    (catalog (libraries.foldl Libraries.register .empty)).Unmarking :=
  fun _ library found => unmarking library (mem_of_find? found)

namespace Fixture

variable {left right output : Value}

theorem divide_isSafe (done : divide left right = .ok output) : output.isSafe = false := by
  unfold divide at done
  split at done
  next =>
    split at done <;> cases done
    rfl
  next => cases done

theorem multiply_isSafe (done : multiply left right = .ok output) : output.isSafe = false := by
  unfold multiply at done
  dsimp only at done
  split at done
  -- A product is a whole number, text that is not marked, or a double, if there is one.
  all_goals
    split at done
    next =>
      cases done
      rfl
    next => cases done

theorem customFilters_unmarking : customFilters.Unmarking := by
  refine ((((Library.new_unmarking _).register ?cut).register ?double).register ?multiply).register ?divide
    |>.register ?lower
  case cut | lower =>
    intro _ _ _ done
    cases done
    rfl
  case double | multiply => exact fun _ _ _ => multiply_isSafe
  case divide => exact fun _ _ _ => divide_isSafe

theorem libraries_unmarking : libraries.catalog.Unmarking := by
  refine Libraries.catalog_unmarking ?_
  simp only [List.forall_mem_cons, List.not_mem_nil, false_implies, implies_true, and_true]
  refine ⟨customFilters_unmarking, ?more, ?shadow⟩
  case more => exact (Library.new_unmarking _).register fun _ _ _ => multiply_isSafe
  case shadow =>
    exact ((Library.new_unmarking _).register fun _ _ _ => multiply_isSafe).register fun _ _ _ => multiply_isSafe

end Fixture

end Stencil
