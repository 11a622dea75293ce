import Stencil.Proofs.Outcome
import Stencil.Proofs.Placement
import Stencil.Template

/-! The words of a block tag, where they stand, and what a load tag made of them brings into scope. -/

set_option autoImplicit false

namespace Stencil

structure Binding where
  name : String
  bound : BoundFilter

def Library.bindings (library : Library) : List Binding :=
  library.filters.entries.map fun (name, filter) => ⟨name, filter, library.name⟩

/-- What is brought into scope is a filter of a library of the catalog, under its name there. -/
def Catalog.Provides (catalog : Catalog) (binding : Binding) : Prop :=
  ∃ asked library, catalog.find? asked = some library ∧ binding.bound.library = library.name ∧
    (binding.name, binding.bound.filter) ∈ library.filters.entries

/-- The filters in scope behind some that are brought into scope one after the other. -/
def Registry.bindAll (registry : Registry) (bindings : List Binding) : Registry :=
  bindings.foldl (fun scope binding => scope.bind binding.name binding.bound.filter binding.bound.library) registry

theorem Registry.bindAll_append (registry : Registry) (first second : List Binding) :
    registry.bindAll (first ++ second) = (registry.bindAll first).bindAll second :=
  List.foldl_append

theorem Registry.load_eq (registry : Registry) (library : Library) :
    registry.load library = registry.bindAll library.bindings := by
  rw [load, bindAll, Library.bindings, List.foldl_map]

namespace Template

open Text (byteLength StandsAt isBlank)

/-- What the words behind `load` ask for: if the last but one is `from` and others stand before it, filters of
the library that is named last. -/
def Load.ofWords (words : List String) : Load :=
  let front := words.take (words.length - 2)
  match words.drop (words.length - 2) with
  | ["from", library] => if front.isEmpty then .libraries words else .filters front library
  | _ => .libraries words

/-- All libraries and filters that are asked for are there. -/
def Load.Known (catalog : Catalog) : Load → Prop
  | libraries names => ∀ name ∈ names, (catalog.find? name).isSome
  | filters names asked => ∃ library, catalog.find? asked = some library ∧
      ∀ name ∈ names, (library.filter? name).isSome

def Load.bindings (catalog : Catalog) : Load → List Binding
  | libraries names => (names.filterMap catalog.find?).flatMap Library.bindings
  | filters names asked => (catalog.find? asked).toList.flatMap fun library =>
      names.filterMap fun name => (library.filter? name).map fun filter => ⟨name, filter, library.name⟩

section
variable {catalog : Catalog} {registry scope : Registry} {bits : List Bit} {error : ParseError}

theorem Load.provided (load : Load) : ∀ binding ∈ load.bindings catalog, catalog.Provides binding := by
  intro binding member
  cases load with
  | libraries names =>
    obtain ⟨library, listed, member⟩ := List.mem_flatMap.mp member
    obtain ⟨name, -, found⟩ := List.mem_filterMap.mp listed
    obtain ⟨entry, provided, rfl⟩ := List.mem_map.mp member
    exact ⟨name, library, found, rfl, provided⟩
  | filters names asked =>
    obtain ⟨library, found, member⟩ := List.mem_flatMap.mp member
    obtain ⟨name, -, named⟩ := List.mem_filterMap.mp member
    obtain ⟨filter, provided, rfl⟩ := Option.map_eq_some_iff.mp named
    exact ⟨asked, library, Option.mem_toList.mp found, rfl, Entries.mem_of_get? provided⟩

theorem loadLibraries_eq_ok_iff : loadLibraries catalog registry bits = .ok scope ↔
    (Load.libraries (bits.map Bit.text)).Known catalog ∧
      scope = registry.bindAll ((Load.libraries (bits.map Bit.text)).bindings catalog) := by
  induction bits generalizing registry with
  | nil => exact ⟨fun done => ⟨nofun, (Except.ok.inj done).symm⟩, fun known => congrArg Except.ok known.2.symm⟩
  | cons bit bits ih =>
    simp only [Load.Known, Load.bindings] at ih ⊢
    rw [loadLibraries, Catalog.library, List.map_cons, List.forall_mem_cons, List.filterMap_cons]
    cases found : catalog.find? bit.text with
    | none => simp [bind, Except.bind]
    | some library =>
      simp only [bind, Except.bind, ih, Registry.load_eq, Option.isSome_some, true_and, List.flatMap_cons,
        Registry.bindAll_append]

theorem loadLibraries_error (failed : loadLibraries catalog registry bits = .error error) :
    ∃ bit ∈ bits, catalog.find? bit.text = none ∧ ∃ available, error = .unknownLibrary bit.text available bit.span := by
  induction bits generalizing registry with
  | nil => cases failed
  | cons bit bits ih =>
    rw [loadLibraries, Catalog.library] at failed
    cases found : catalog.find? bit.text with
    | none =>
      rw [found] at failed
      cases failed
      exact ⟨bit, List.mem_cons_self, found, _, rfl⟩
    | some library =>
      rw [found] at failed
      obtain ⟨other, member, rest⟩ := ih failed
      exact ⟨other, List.mem_cons_of_mem bit member, rest⟩

variable {library : Library} {asked : String}

theorem filtersNamed_eq_ok_iff {named : List (String × Filter)} : filtersNamed library asked bits = .ok named ↔
    (∀ bit ∈ bits, (library.filter? bit.text).isSome) ∧
      named = bits.filterMap fun bit => (library.filter? bit.text).map (bit.text, ·) := by
  induction bits generalizing named with
  | nil => exact ⟨fun done => ⟨nofun, (Except.ok.inj done).symm⟩, fun known => congrArg Except.ok known.2.symm⟩
  | cons bit bits ih =>
    rw [filtersNamed, List.forall_mem_cons, List.filterMap_cons]
    cases found : library.filter? bit.text with
    | none => simp
    | some filter =>
      simp only [Outcome.bind_eq_ok, ih, Option.isSome_some, true_and, Option.map_some]
      constructor
      · rintro ⟨others, ⟨known, rfl⟩, same⟩
        cases same
        exact ⟨known, rfl⟩
      · rintro ⟨known, rfl⟩
        exact ⟨_, ⟨known, rfl⟩, rfl⟩

theorem filtersNamed_error (failed : filtersNamed library asked bits = .error error) :
    ∃ bit ∈ bits, library.filter? bit.text = none ∧ error = .notInLibrary bit.text asked bit.span := by
  induction bits with
  | nil => cases failed
  | cons bit bits ih =>
    rw [filtersNamed] at failed
    cases found : library.filter? bit.text with
    | none =>
      rw [found] at failed
      cases failed
      exact ⟨bit, List.mem_cons_self, found, rfl⟩
    | some filter =>
      rw [found] at failed
      rcases Outcome.bind_eq_error.mp failed with failed | ⟨others, _, done⟩
      · obtain ⟨other, member, rest⟩ := ih failed
        exact ⟨other, List.mem_cons_of_mem bit member, rest⟩
      · cases done

end

theorem splitFrom?_eq_some_iff {arguments names : List Bit} {library : Bit} :
    splitFrom? arguments = some (names, library) ↔
      ∃ word, arguments = names ++ [word, library] ∧ word.text = "from" ∧ names ≠ [] := by
  constructor
  · intro found
    unfold splitFrom? at found
    split at found
    next last word name front backwards =>
      split at found
      next marked =>
        cases found
        have forwards := congrArg List.reverse backwards
        refine ⟨word, ?_, marked, by simp⟩
        simpa using forwards
      next => cases found
    next => cases found
  · rintro ⟨word, rfl, marked, some_⟩
    obtain ⟨front, name, rfl⟩ := List.eq_nil_or_concat names |>.resolve_left some_
    simp [splitFrom?, marked]

theorem Load.ofWords_from {names : List String} (some_ : names ≠ []) (library : String) :
    ofWords (names ++ ["from", library]) = .filters names library := by
  have width : (names ++ ["from", library]).length - 2 = names.length := by simp
  simp only [ofWords, width, List.drop_left, List.take_left]
  rw [if_neg (by simpa using some_)]

example : Load.ofWords ["from", "more"] = .libraries ["from", "more"] := rfl

theorem Load.ofWords_of_none {arguments : List Bit} (none : splitFrom? arguments = none) :
    ofWords (arguments.map Bit.text) = .libraries (arguments.map Bit.text) := by
  unfold ofWords
  simp only
  split
  next library last =>
    split
    next => rfl
    next some_ =>
      -- Words that end so come from bits that end so, and those are split.
      rw [List.length_map, ← List.map_take] at some_
      rw [List.length_map, ← List.map_drop] at last
      obtain ⟨word, rest, bits, marked, more⟩ := List.map_eq_cons_iff.mp last
      obtain ⟨source, left, rfl, -, empty⟩ := List.map_eq_cons_iff.mp more
      rw [List.map_eq_nil_iff.mp empty] at bits
      have found : splitFrom? arguments = some (arguments.take (arguments.length - 2), source) :=
        splitFrom?_eq_some_iff.mpr ⟨word, by rw [← bits, List.take_append_drop], marked, by simpa using some_⟩
      rw [none] at found
      cases found
  next => rfl

section
variable {catalog : Catalog} {registry scope : Registry} {bits : List Bit} {error : ParseError}

/-- A load tag asks for what its words say, and is read just if all of it is there. -/
theorem Load.ofBits_eq_ok_iff {load : Load} : ofBits catalog registry bits = .ok (load, scope) ↔
    load = ofWords (bits.map Bit.text) ∧ load.Known catalog ∧ scope = registry.bindAll (load.bindings catalog) := by
  unfold ofBits
  cases cut : splitFrom? bits with
  | none =>
    rw [ofWords_of_none cut]
    simp only [Outcome.bind_eq_ok, loadLibraries_eq_ok_iff]
    constructor
    · rintro ⟨final, ⟨known, rfl⟩, same⟩
      cases same
      exact ⟨rfl, known, rfl⟩
    · rintro ⟨rfl, known, rfl⟩
      exact ⟨_, ⟨known, rfl⟩, rfl⟩
  | some pair =>
    obtain ⟨names, source⟩ := pair
    obtain ⟨word, rfl, marked, some_⟩ := splitFrom?_eq_some_iff.mp cut
    have words : (names ++ [word, source]).map Bit.text = names.map Bit.text ++ ["from", source.text] := by
      rw [List.map_append, ← marked]
      rfl
    rw [words, ofWords_from (by simpa using some_)]
    cases found : catalog.find? source.text with
    | none =>
      simp only [Catalog.library, found, bind, Except.bind, reduceCtorEq, false_iff]
      rintro ⟨rfl, ⟨library, same, -⟩, -⟩
      rw [found] at same
      cases same
    | some library =>
      let named := names.filterMap fun bit => (library.filter? bit.text).map (bit.text, ·)
      have listed : (Load.filters (names.map Bit.text) source.text).bindings catalog =
          named.map fun (name, filter) => ⟨name, filter, library.name⟩ := by
        simp only [bindings, found, Option.toList_some, List.flatMap_singleton, List.filterMap_map, named,
          List.map_filterMap, Option.map_map]
        rfl
      have scopes : registry.bindAll ((Load.filters (names.map Bit.text) source.text).bindings catalog) =
          named.foldl (fun scope (name, filter) => scope.bind name filter library.name) registry := by
        rw [listed, Registry.bindAll, List.foldl_map]
      -- All filters are found before the first of them is brought into scope.
      simp only [Catalog.library, found, Outcome.bind_eq_ok, filtersNamed_eq_ok_iff]
      constructor
      · rintro ⟨_, same, _, ⟨known, rfl⟩, done⟩
        cases same
        cases done
        exact ⟨rfl, ⟨library, found, by simpa using known⟩, scopes.symm⟩
      · rintro ⟨rfl, ⟨other, same, known⟩, rfl⟩
        rw [found] at same
        cases same
        exact ⟨_, rfl, _, ⟨by simpa using known, rfl⟩, by rw [scopes]; rfl⟩

theorem Load.ofBits_error (failed : ofBits catalog registry bits = .error error) :
    ∃ bit ∈ bits, (∃ available, error = .unknownLibrary bit.text available bit.span) ∨
      ∃ asked, error = .notInLibrary bit.text asked bit.span := by
  unfold ofBits at failed
  cases cut : splitFrom? bits with
  | none =>
    rw [cut] at failed
    rcases Outcome.bind_eq_error.mp failed with failed | ⟨final, -, done⟩
    · obtain ⟨bit, member, -, same⟩ := loadLibraries_error failed
      exact ⟨bit, member, Or.inl same⟩
    · cases done
  | some pair =>
    obtain ⟨names, source⟩ := pair
    obtain ⟨word, rfl, -⟩ := splitFrom?_eq_some_iff.mp cut
    rw [cut] at failed
    rcases Outcome.bind_eq_error.mp failed with failed | ⟨library, -, failed⟩
    · refine ⟨source, by simp, Or.inl ?_⟩
      unfold Catalog.library at failed
      split at failed
      next => cases failed
      next => cases failed; exact ⟨_, rfl⟩
    · rcases Outcome.bind_eq_error.mp failed with failed | ⟨named, -, done⟩
      · obtain ⟨bit, member, -, same⟩ := filtersNamed_error failed
        exact ⟨bit, List.mem_append_left _ member, Or.inr ⟨_, same⟩⟩
      · cases done

end

/-- A word stands in a text that starts at a position, where its span says. -/
def Bit.StandsIn (bit : Bit) (text : List Char) (start : Nat) : Prop :=
  ∃ before after, text = before ++ bit.text.toList ++ after ∧
    bit.span = ⟨start + byteLength before, start + byteLength before + byteLength bit.text.toList⟩

theorem Bit.StandsIn.behind {bit : Bit} {front rest : List Char} {start : Nat}
    (stands : bit.StandsIn rest (start + byteLength front)) : bit.StandsIn (front ++ rest) start := by
  obtain ⟨before, after, rfl, span⟩ := stands
  refine ⟨front ++ before, after, by simp only [List.append_assoc], ?_⟩
  rw [span, Text.byteLength_append, Nat.add_assoc start]

theorem Bit.StandsIn.append {bit : Bit} {text : List Char} {start : Nat} (stands : bit.StandsIn text start)
    (rest : List Char) : bit.StandsIn (text ++ rest) start := by
  obtain ⟨before, after, rfl, span⟩ := stands
  exact ⟨before, after ++ rest, by simp only [List.append_assoc], span⟩

section
variable {start : Nat} {pending cs : List Char}

theorem Bit.ofReversed_standsIn : ∀ bit ∈ ofReversed pending (start + byteLength pending),
    bit.StandsIn (pending.reverse ++ cs) start := by
  intro bit member
  unfold ofReversed at member
  split at member
  next => cases member
  next =>
    rw [List.mem_singleton] at member
    subst member
    exact ⟨[], cs, by simp, by simp⟩

theorem Bit.splitFrom_standsIn {position : Nat} {quoting : Quoting} (here : position = start + byteLength pending) :
    ∀ bit ∈ splitFrom position quoting pending cs, bit.StandsIn (pending.reverse ++ cs) start := by
  induction cs generalizing position quoting pending start with
  | nil =>
    subst here
    exact ofReversed_standsIn
  | cons c cs ih =>
    have next : position + c.utf8Size = start + byteLength (c :: pending) := by
      rw [here, Text.byteLength_cons]
      omega
    -- The text is the same, whether the character is still to come or already held.
    have moved : pending.reverse ++ c :: cs = (c :: pending).reverse ++ cs := by simp
    rw [splitFrom]
    split
    next =>
      refine List.forall_mem_append.mpr ⟨?_, fun bit member => ?_⟩
      · rw [here]
        exact ofReversed_standsIn
      · rw [next, ← Text.byteLength_reverse] at member
        rw [moved]
        exact (@ih _ [] _ .outside rfl bit member).behind
    next =>
      rw [moved]
      exact ih next

theorem Bit.ofReversed_eq_nil {stop : Nat} (none : ofReversed pending stop = []) : pending = [] := by
  rw [ofReversed] at none
  split at none
  next empty => exact List.isEmpty_iff.mp empty
  next => cases none

theorem Bit.splitFrom_eq_nil {position : Nat} {quoting : Quoting} (none : splitFrom position quoting pending cs = []) :
    pending = [] ∧ ∀ c ∈ cs, isBlank c = true := by
  induction cs generalizing position quoting pending with
  | nil => exact ⟨ofReversed_eq_nil none, nofun⟩
  | cons c cs ih =>
    rw [splitFrom] at none
    split at none
    next plain =>
      obtain ⟨last, rest⟩ := List.append_eq_nil_iff.mp none
      exact ⟨ofReversed_eq_nil last, List.forall_mem_cons.mpr ⟨plain.2, (ih rest).2⟩⟩
    next => cases (ih none).1

end

theorem Bit.split_standsIn (content : String) (offset : Nat) :
    ∀ bit ∈ split content offset, bit.StandsIn content.toList offset :=
  @splitFrom_standsIn offset [] content.toList offset .outside rfl

/-- Builtin libraries are loaded just if all of them are known. -/
theorem loadLibraries_builtins {catalog : Catalog} {builtins : List String} {scope : Registry} :
    loadLibraries catalog .empty (builtins.map (⟨·, ⟨0, 0⟩⟩)) = .ok scope ↔ (Load.libraries builtins).Known catalog ∧
      scope = Registry.bindAll .empty ((Load.libraries builtins).bindings catalog) := by
  have names : (builtins.map fun name => Bit.mk name ⟨0, 0⟩).map Bit.text = builtins := by simp [Function.comp_def]
  rw [loadLibraries_eq_ok_iff, names]

/-- A template that was read is what its tokens are read as behind the builtin libraries. -/
theorem parse_eq_ok {catalog : Catalog} {builtins : List String} {source : String} {template : Template}
    (done : parse catalog builtins source = .ok template) :
    ∃ tokens, (Load.libraries builtins).Known catalog ∧ Token.scan source = .ok tokens ∧
      readTokens catalog source (Registry.bindAll .empty ((Load.libraries builtins).bindings catalog)) tokens =
        .ok (template.nodes, template.registry) := by
  obtain ⟨registry, loaded, done⟩ := Outcome.bind_eq_ok.mp done
  obtain ⟨tokens, scanned, done⟩ := Outcome.bind_eq_ok.mp done
  obtain ⟨⟨nodes, scope⟩, read, same⟩ := Outcome.bind_eq_ok.mp done
  cases same
  obtain ⟨known, rfl⟩ := loadLibraries_builtins.mp loaded
  exact ⟨tokens, known, scanned, read⟩

end Template

end Stencil
