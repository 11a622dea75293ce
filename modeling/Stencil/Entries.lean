/-! Association lists in the order in which their keys were first entered.

`Entries` are the bare pairs; an `OrderedMap` also knows that no key occurs twice. Entering a key again
keeps its place and takes the new value. -/

set_option autoImplicit false

namespace Stencil

/-- Pairs of a key and a value, in order. -/
abbrev Entries (α : Type) := List (String × α)

namespace Entries

variable {α : Type}

/-- The value of the first pair with the key. -/
def get? (key : String) : Entries α → Option α
  | [] => none
  | (k, v) :: rest => if k = key then some v else get? key rest

/-- Enters a pair: in the place of the key if it is there, else at the end. -/
def insert (key : String) (value : α) : Entries α → Entries α
  | [] => [(key, value)]
  | (k, v) :: rest => if k = key then (k, value) :: rest else (k, v) :: insert key value rest

def keys (entries : Entries α) : List String := entries.map (·.1)

/-- No key occurs twice. -/
def Distinct (entries : Entries α) : Prop := entries.keys.Nodup

def insertAll (entries : Entries α) (pairs : List (String × α)) : Entries α :=
  pairs.foldl (fun acc pair => acc.insert pair.1 pair.2) entries

/-- The entries made from pairs of which some may repeat a key. -/
def ofPairs (pairs : List (String × α)) : Entries α := insertAll [] pairs

theorem get?_insert (key : String) (value : α) (entries : Entries α) (name : String) :
    (entries.insert key value).get? name = if key = name then some value else entries.get? name := by
  induction entries with
  | nil => simp [insert, get?]
  | cons head rest ih =>
    obtain ⟨k, v⟩ := head
    by_cases same : k = key
    · subst same; by_cases named : k = name <;> simp [insert, get?, named]
    · by_cases named : k = name
      · subst named; simp [insert, get?, same, Ne.symm same]
      · simp [insert, get?, same, named, ih]

theorem keys_insert (key : String) (value : α) (entries : Entries α) :
    (entries.insert key value).keys =
      if key ∈ entries.keys then entries.keys else entries.keys ++ [key] := by
  induction entries with
  | nil => simp [insert, keys]
  | cons head rest ih =>
    obtain ⟨k, v⟩ := head
    by_cases same : k = key
    · subst same; simp [insert, keys]
    · have other : ¬key = k := fun h => same h.symm
      have ih' : (insert key value rest).keys =
          if key ∈ keys rest then keys rest else keys rest ++ [key] := ih
      have cons : keys ((k, v) :: rest) = k :: keys rest := rfl
      have step : keys (insert key value ((k, v) :: rest)) = k :: keys (insert key value rest) := by
        simp [insert, same, keys]
      rw [step, ih', cons]
      by_cases mem : key ∈ keys rest <;> simp [mem, other]

theorem Distinct.insert {entries : Entries α} (distinct : entries.Distinct) (key : String) (value : α) :
    (Entries.insert key value entries).Distinct := by
  unfold Distinct at *
  rw [keys_insert]
  split
  next => exact distinct
  next absent =>
    refine List.nodup_append.2 ⟨distinct, by simp, ?_⟩
    intro a ha b hb same
    rw [List.mem_singleton] at hb
    exact absent (hb ▸ same ▸ ha)

theorem mem_keys_iff {key : String} {entries : Entries α} :
    key ∈ entries.keys ↔ (entries.get? key).isSome := by
  induction entries with
  | nil => simp [keys, get?]
  | cons head rest ih =>
    obtain ⟨k, v⟩ := head
    have ih' : key ∈ List.map (·.1) rest ↔ (get? key rest).isSome := ih
    by_cases same : k = key
    · simp [keys, get?, same]
    · have other : ¬key = k := fun h => same h.symm
      simpa [keys, get?, same, other] using ih'

theorem mem_of_get? {key : String} {value : α} {entries : Entries α} (found : entries.get? key = some value) :
    (key, value) ∈ entries := by
  induction entries with
  | nil => cases found
  | cons entry rest ih =>
    obtain ⟨k, v⟩ := entry
    rw [get?] at found
    split at found
    next same =>
      cases found
      exact same ▸ List.mem_cons_self
    next => exact List.mem_cons_of_mem _ (ih found)

/-- An entry of keys that are all different is found under its key. -/
theorem get?_of_mem {key : String} {value : α} {entries : Entries α} (distinct : entries.Distinct)
    (member : (key, value) ∈ entries) : entries.get? key = some value := by
  induction entries with
  | nil => cases member
  | cons entry rest ih =>
    obtain ⟨fresh, distinct⟩ := List.nodup_cons.mp distinct
    rcases List.mem_cons.mp member with rfl | member
    · exact if_pos rfl
    · have other : entry.1 ≠ key := by
        rintro rfl
        exact fresh (List.mem_map.mpr ⟨_, member, rfl⟩)
      rw [get?, if_neg other]
      exact ih distinct member

end Entries

/-- Entries in which no key occurs twice. -/
structure OrderedMap (α : Type) where
  entries : Entries α
  distinct : entries.Distinct

namespace OrderedMap

variable {α : Type}

def empty : OrderedMap α := ⟨[], by simp [Entries.Distinct, Entries.keys]⟩

instance : Inhabited (OrderedMap α) := ⟨empty⟩

def get? (map : OrderedMap α) (key : String) : Option α := map.entries.get? key

def contains (map : OrderedMap α) (key : String) : Bool := (map.get? key).isSome

/-- Enters a value: in the place of the key if it is there, else at the end. -/
def insert (map : OrderedMap α) (key : String) (value : α) : OrderedMap α :=
  ⟨map.entries.insert key value, map.distinct.insert key value⟩

def insertAll (map : OrderedMap α) (pairs : List (String × α)) : OrderedMap α :=
  pairs.foldl (fun acc pair => acc.insert pair.1 pair.2) map

def ofPairs (pairs : List (String × α)) : OrderedMap α := empty.insertAll pairs

/-- The keys in the order of their first entry. -/
def keys (map : OrderedMap α) : List String := map.entries.keys

def size (map : OrderedMap α) : Nat := map.entries.length

def isEmpty (map : OrderedMap α) : Bool := map.entries.isEmpty

theorem get?_insert (map : OrderedMap α) (key : String) (value : α) (name : String) :
    (map.insert key value).get? name = if key = name then some value else map.get? name :=
  Entries.get?_insert key value map.entries name

theorem keys_insert (map : OrderedMap α) (key : String) (value : α) :
    (map.insert key value).keys = if key ∈ map.keys then map.keys else map.keys ++ [key] :=
  Entries.keys_insert key value map.entries

theorem entries_insertAll (map : OrderedMap α) (pairs : List (String × α)) :
    (map.insertAll pairs).entries = map.entries.insertAll pairs := by
  induction pairs generalizing map with
  | nil => rfl
  | cons pair rest ih => exact ih (map.insert pair.1 pair.2)

@[ext] theorem ext {a b : OrderedMap α} (same : a.entries = b.entries) : a = b := by
  cases a; cases b; cases same; rfl

end OrderedMap

end Stencil
