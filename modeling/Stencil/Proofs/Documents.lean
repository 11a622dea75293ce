import Mathlib
import Stencil.Json.Reader
import Stencil.Toml.Reader

/-! Documents of plain data: when two of them match, and that those that are read enter no key twice. -/

set_option autoImplicit false

namespace Stencil

namespace Entries

variable {α : Type} {entries : Entries α}

theorem Distinct.ofPairs (pairs : List (String × α)) : (Entries.ofPairs pairs).Distinct := by
  have made : (OrderedMap.ofPairs pairs).entries = Entries.ofPairs pairs := OrderedMap.entries_insertAll .empty pairs
  exact made ▸ (OrderedMap.ofPairs pairs).distinct

theorem Distinct.perm {others : Entries α} (distinct : entries.Distinct) (permuted : entries.Perm others) :
    others.Distinct :=
  (permuted.map _).nodup_iff.mp distinct

/-- A key that is taken out and entered again, behind all others. -/
theorem Distinct.moved (distinct : entries.Distinct) (key : String) (value : α) :
    Distinct (entries.filter (·.1 ≠ key) ++ [(key, value)]) := by
  unfold Distinct keys at *
  rw [List.map_append, List.nodup_append]
  refine ⟨distinct.sublist (List.filter_sublist.map _), by simp, ?_⟩
  rintro name member _ last rfl
  rw [List.map_singleton, List.mem_singleton] at last
  obtain ⟨entry, kept, rfl⟩ := List.mem_map.mp member
  simpa [last] using (List.mem_filter.mp kept).2

end Entries

namespace Json

/-- Two documents match part by part: arrays place by place, and objects key by key whatever their order. -/
inductive Matches : Json → Json → Prop
  | null : Matches .null .null
  | bool {b : Bool} : Matches (.bool b) (.bool b)
  | integer {n : Int} : Matches (.number (.integer n)) (.number (.integer n))
  | float {x y : Float} : x == y → Matches (.number (.float x)) (.number (.float y))
  | string {s : String} : Matches (.string s) (.string s)
  | array {items others : List Json} : items.length = others.length →
      (∀ (index : Nat) a b, items[index]? = some a → others[index]? = some b → Matches a b) →
      Matches (.array items) (.array others)
  | object {entries others : Entries Json} : entries.length = others.length →
      (∀ key, key ∈ entries.keys ↔ key ∈ others.keys) →
      (∀ key a b, entries.get? key = some a → others.get? key = some b → Matches a b) →
      Matches (.object entries) (.object others)

theorem Matches.symm {a b : Json} (same : a.Matches b) : b.Matches a := by
  induction same with
  | null => exact .null
  | bool => exact .bool
  | integer => exact .integer
  | float same => exact .float (PartialEquivBEq.symm same)
  | string => exact .string
  | array length _ ih => exact .array length.symm fun index b a right left => ih index a b left right
  | object length keys _ ih =>
    exact .object length.symm (fun key => (keys key).symm) fun key b a right left => ih key a b left right

theorem readScalar?_ne_object {cs rest : List Char} {entries : Entries Json} :
    readScalar? cs ≠ some (.object entries, rest) := by
  intro read
  unfold readScalar? at read
  split at read
  next => cases read
  next => cases read
  next => cases read
  next =>
    obtain ⟨_, _, same⟩ := Option.map_eq_some_iff.mp read
    cases same
  next =>
    obtain ⟨_, _, same⟩ := Option.map_eq_some_iff.mp read
    cases same

theorem readValue?_distinct {depth : Nat} {cs rest : List Char} {entries : Entries Json}
    (read : readValue? depth cs = some (.object entries, rest)) : entries.Distinct := by
  cases depth with
  | zero => exact (readScalar?_ne_object read).elim
  | succ depth =>
    unfold readValue? at read
    split at read
    next =>
      obtain ⟨_, _, same⟩ := Option.map_eq_some_iff.mp read
      cases same
    next =>
      obtain ⟨⟨pairs, _⟩, _, same⟩ := Option.map_eq_some_iff.mp read
      cases same
      exact .ofPairs pairs
    next => exact (readScalar?_ne_object read).elim

/-- No key of a document is there twice. -/
theorem read?_distinct {text : String} {entries : Entries Json} (read : read? text = some (.object entries)) :
    entries.Distinct := by
  obtain ⟨⟨json, rest⟩, value, ended⟩ := Option.bind_eq_some_iff.mp read
  dsimp only at ended
  split at ended
  next =>
    cases ended
    exact readValue?_distinct value
  next => cases ended

end Json

namespace Toml

namespace Table

variable {table result : Table}

/-- An item under one key, made from a table if there is one. -/
theorem distinct_of_entered {key : String} {inner : Option Table} {item : Table → Item}
    (distinct : Entries.Distinct table)
    (entered : (inner.map fun inner => Entries.insert key (item inner) table) = some result) :
    Entries.Distinct result := by
  obtain ⟨inner, -, rfl⟩ := Option.map_eq_some_iff.mp entered
  exact distinct.insert key _

/-- A change keeps the keys of the outermost table different if it does so where it ends. -/
theorem change_distinct {origin here : Origin} {f : Origin → Table → Option Table} {path : List String}
    (keeps : ∀ here {table result : Table}, f here table = some result → Entries.Distinct table →
      Entries.Distinct result)
    (changed : change origin f here path table = some result) (distinct : Entries.Distinct table) :
    Entries.Distinct result := by
  cases path with
  | nil => exact keeps here changed distinct
  | cons key path =>
    rw [change] at changed
    split at changed
    next => exact distinct_of_entered distinct changed
    next => cases changed
    next => cases changed
    next =>
      split at changed
      next => cases changed
      next => exact distinct_of_entered distinct changed
    next => exact distinct_of_entered distinct changed

theorem insert_distinct {path : List String} {key : String} {item : Item}
    (inserted : table.insert path key item = some result) (distinct : Entries.Distinct table) :
    Entries.Distinct result := by
  refine change_distinct (fun _ table result done distinct => ?_) inserted distinct
  split at done
  next => cases done
  next =>
    cases done
    exact distinct.insert key item

theorem insertAll_distinct {assignments : List Assignment} (inserted : table.insertAll assignments = some result)
    (distinct : Entries.Distinct table) : Entries.Distinct result := by
  induction assignments generalizing table with
  | nil =>
    cases inserted
    exact distinct
  | cons a rest ih =>
    obtain ⟨next, here, later⟩ := Option.bind_eq_some_iff.mp inserted
    exact ih later (insert_distinct here distinct)

theorem define_distinct {path : List String} {key : String} {values : List Assignment}
    (defined : table.define path key values = some result) (distinct : Entries.Distinct table) :
    Entries.Distinct result := by
  refine change_distinct (fun _ table result done distinct => ?_) defined distinct
  split at done
  next => exact distinct_of_entered distinct done
  next =>
    obtain ⟨inner, -, rfl⟩ := Option.map_eq_some_iff.mp done
    exact distinct.moved key _
  next => cases done

theorem append_distinct {path : List String} {key : String} {values : List Assignment}
    (appended : table.append path key values = some result) (distinct : Entries.Distinct table) :
    Entries.Distinct result := by
  refine change_distinct (fun _ table result done distinct => ?_) appended distinct
  split at done
  next => exact distinct_of_entered distinct done
  next => exact distinct_of_entered distinct done
  next => cases done

end Table

theorem addTables_distinct {root table : Table} {lines : List Line} (added : addTables root lines = some table)
    (distinct : Entries.Distinct root) : Entries.Distinct table := by
  induction lines generalizing root with
  | nil =>
    cases added
    exact distinct
  | cons line rest ih =>
    cases line with
    | assignment => exact ih added distinct
    | table =>
      obtain ⟨next, here, later⟩ := Option.bind_eq_some_iff.mp added
      exact ih later (Table.define_distinct here distinct)
    | element =>
      obtain ⟨next, here, later⟩ := Option.bind_eq_some_iff.mp added
      exact ih later (Table.append_distinct here distinct)

theorem entriesToJson?_keys {table : Table} {entries : Entries Json} (closed : entriesToJson? table = some entries) :
    entries.keys = Entries.keys table := by
  induction table generalizing entries with
  | nil =>
    cases closed
    rfl
  | cons entry rest ih =>
    obtain ⟨key, item⟩ := entry
    rw [entriesToJson?] at closed
    split at closed
    next json others _ later =>
      cases closed
      exact congrArg (key :: ·) (ih later)
    next => cases closed

/-- No key of a document is there twice. -/
theorem read?_distinct {text : String} {entries : Entries Json} (read : read? text = some (.object entries)) :
    entries.Distinct := by
  unfold read? at read
  obtain ⟨lines, -, read⟩ := Option.bind_eq_some_iff.mp read
  obtain ⟨root, inserted, read⟩ := Option.bind_eq_some_iff.mp read
  obtain ⟨table, added, read⟩ := Option.bind_eq_some_iff.mp read
  obtain ⟨plain, closed, same⟩ := Option.map_eq_some_iff.mp read
  cases same
  have rootDistinct : Entries.Distinct root := Table.insertAll_distinct inserted List.nodup_nil
  have distinct : Entries.Distinct plain := by
    rw [Entries.Distinct, entriesToJson?_keys closed]
    exact addTables_distinct added rootDistinct
  exact distinct.perm (List.mergeSort_perm plain keyLe).symm

end Toml

end Stencil
