import Stencil.Fixture.Article
import Stencil.Proofs.Outcome
import Stencil.Proofs.Traversal
import Stencil.Template.Literal

/-! Indices without a limit: no list or text that fits into memory has more items or characters than 64 bits can count,
so what the names of a path lead to does not depend on where the reading of indices ends. -/

set_option autoImplicit false

namespace Stencil

/-- A value whose lists and texts, and those of all it holds, have fewer items and characters than 64 bits can count. -/
inductive Value.Fits : Value → Prop
  | none : Fits .none
  | bool {b : Bool} : Fits (.bool b)
  | integer {n : Int64} : Fits (.integer n)
  | float {x : Float} : Fits (.float x)
  | text {s : String} : s.length < UInt64.size → Fits (.text s)
  | safeText {s : String} : s.length < UInt64.size → Fits (.safeText s)
  | list {items : List Value} : items.length < UInt64.size → (∀ item ∈ items, Fits item) → Fits (.list items)
  | dict {entries : List (String × Value)} : (∀ entry ∈ entries, Fits entry.2) → Fits (.dict entries)
  | object {object : HostObject Value} : (∀ name found value, object.member? name = some found →
      found.resolve = .ok value → Fits value) → Fits (.object object)

/-- A context that binds its names to values that fit. -/
def Context.Fits (context : Context) : Prop := ∀ name value, context.get? name = some value → value.Fits

section
variable {reads reads' : String → Nat → Prop} {v value last : Value} {name : String} {names : List String}
  {found : Attribute Value} {context : Context}

theorem Value.FindsBy.mono (wider : ∀ name number, reads name number → reads' name number)
    (finds : v.FindsBy reads name found) : v.FindsBy reads' name found := by
  cases finds with
  | entry entry => exact .entry entry
  | item read item => exact .item (wider _ _ read) item
  | character read character => exact .character (wider _ _ read) character
  | safeCharacter read character => exact .safeCharacter (wider _ _ read) character
  | member member => exact .member member

theorem Value.LeadsBy.mono (wider : ∀ name number, reads name number → reads' name number)
    (leads : v.LeadsBy reads names last) : v.LeadsBy reads' names last := by
  induction leads with
  | here => exact .here
  | next finds resolved _ ih => exact .next (finds.mono wider) resolved ih

theorem isIndex_of_character {text : String} {number : Nat} {c : Char} (short : text.length < UInt64.size)
    (denotes : Denotes name number) (character : text.toList[number]? = some c) : IsIndex name number := by
  have inside := (List.getElem?_eq_some_iff.mp character).1
  rw [String.length_toList] at inside
  exact ⟨denotes, inside.trans short⟩

/-- In a value that fits, only a number of 64 bits finds an item or a character. -/
theorem Value.Fits.findsBy_iff (fits : v.Fits) : v.FindsBy Denotes name found ↔ v.Finds name found := by
  refine ⟨fun finds => ?_, FindsBy.mono fun _ _ => IsIndex.denotes⟩
  cases finds with
  | entry entry => exact .entry entry
  | member member => exact .member member
  | item denotes item =>
    cases fits with
    | list short =>
      have inside := (List.getElem?_eq_some_iff.mp item).1
      exact .item ⟨denotes, inside.trans short⟩ item
  | character denotes character =>
    cases fits with
    | text short => exact .character (isIndex_of_character short denotes character) character
  | safeCharacter denotes character =>
    cases fits with
    | safeText short => exact .safeCharacter (isIndex_of_character short denotes character) character

/-- What a name finds in a value that fits, fits as well. -/
theorem Value.Fits.of_finds (fits : v.Fits) (finds : v.Finds name found) (resolved : found.resolve = .ok value) :
    value.Fits := by
  have character (c : Char) : (Value.text (String.singleton c)).Fits := .text (by simp)
  cases finds with
  | entry entry =>
    cases resolved
    cases fits with
    | dict fit => exact fit _ (Entries.mem_of_get? entry)
  | item _ item =>
    cases resolved
    cases fits with
    | list _ fit => exact fit _ (List.mem_of_getElem? item)
  | character =>
    cases resolved
    exact character _
  | safeCharacter =>
    cases resolved
    exact character _
  | member member =>
    cases fits with
    | object fit => exact fit _ _ _ member resolved

theorem Value.Fits.leadsBy_iff (fits : v.Fits) : v.LeadsBy Denotes names last ↔ v.Leads names last := by
  refine ⟨fun leads => ?_, LeadsBy.mono fun _ _ => IsIndex.denotes⟩
  induction leads with
  | here => exact .here
  | next finds resolved _ ih =>
    have finds := fits.findsBy_iff.mp finds
    exact .next finds resolved (ih (fits.of_finds finds resolved))

theorem Value.Fits.of_leads (fits : v.Fits) (leads : v.Leads names last) : last.Fits := by
  induction leads with
  | here => exact fits
  | next finds resolved _ ih => exact ih (fits.of_finds finds resolved)

theorem Context.Fits.leadsBy_iff (fits : context.Fits) : context.LeadsBy Denotes names last ↔ context.Leads names last := by
  cases names with
  | nil => rfl
  | cons name names =>
    constructor
    · rintro ⟨value, bound, leads⟩
      exact ⟨value, bound, (fits name value bound).leadsBy_iff.mp leads⟩
    · rintro ⟨value, bound, leads⟩
      exact ⟨value, bound, (fits name value bound).leadsBy_iff.mpr leads⟩

theorem Context.Fits.of_leads (fits : context.Fits) (leads : context.Leads names last) : last.Fits := by
  cases names with
  | nil => exact leads.elim
  | cons name names =>
    obtain ⟨value, bound, leads⟩ := leads
    exact (fits name value bound).of_leads leads

end

namespace Template

variable {reads reads' : String → Nat → Prop} {path : Path} {context : Context} {error : RenderError}

/-- How a path fails depends on the reading of numbers only through what names lead to and find there. -/
theorem Path.FailsBy.congr
    (leads : ∀ names value, context.LeadsBy reads names value ↔ context.LeadsBy reads' names value)
    (finds : ∀ names value, context.LeadsBy reads names value →
      ∀ name found, value.FindsBy reads name found ↔ value.FindsBy reads' name found)
    (fails : path.FailsBy reads context error) : path.FailsBy reads' context error := by
  cases fails with
  | nameless none => exact .nameless none
  | unbound split none => exact .unbound split none
  | absent split front absent =>
    exact .absent split ((leads _ _).mp front) fun found finds' => absent found ((finds _ _ front _ _).mpr finds')
  | raised split front found raised =>
    exact .raised split ((leads _ _).mp front) ((finds _ _ front _ _).mp found) raised

theorem Path.failsBy_iff (fits : context.Fits) : path.FailsBy Denotes context error ↔ path.Fails context error := by
  constructor
  · refine FailsBy.congr (fun _ _ => fits.leadsBy_iff) fun _ _ leads _ _ => ?_
    exact (fits.of_leads (fits.leadsBy_iff.mp leads)).findsBy_iff
  · refine FailsBy.congr (fun _ _ => fits.leadsBy_iff.symm) fun _ _ leads _ _ => ?_
    exact (fits.of_leads leads).findsBy_iff.symm

/-- A path resolves to the value that its names lead to, and fails just where and as they fail to lead on. In a context
that fits, the names written in digits stand for natural numbers of any size. -/
theorem Path.resolve_traverses (path : Path) (context : Context) :
    (∀ value, (path.resolve context).outcome = .ok value ↔ context.Leads (path.segments.map (·.name)) value) ∧
    (∀ error, (path.resolve context).outcome = .error error ↔ path.Fails context error) ∧
    (context.Fits →
      (∀ value, (path.resolve context).outcome = .ok value ↔
        context.LeadsBy Denotes (path.segments.map (·.name)) value) ∧
      ∀ error, (path.resolve context).outcome = .error error ↔ path.FailsBy Denotes context error) := by
  refine ⟨fun _ => resolve_eq_ok_iff, fun _ => resolve_eq_error_iff, fun fits => ⟨fun value => ?_, fun error => ?_⟩⟩
  · exact resolve_eq_ok_iff.trans fits.leadsBy_iff.symm
  · exact resolve_eq_error_iff.trans (failsBy_iff fits).symm

end Template

theorem Context.fits_of_scopes {context : Context}
    (fit : ∀ scope ∈ context.topDown, ∀ entry ∈ scope.entries, entry.2.Fits) : context.Fits := by
  intro name value bound
  obtain ⟨scope, member, bound⟩ := List.exists_of_findSome?_eq_some bound
  exact fit scope member _ (Entries.mem_of_get? bound)

theorem Scope.builtins_fit : ∀ entry ∈ Scope.builtins.entries, entry.2.Fits :=
  List.forall_mem_cons.mpr ⟨.bool, List.forall_mem_cons.mpr ⟨.bool, List.forall_mem_singleton.mpr .none⟩⟩

/-- A context that fits: an article in a list behind a text. An index with zeros before it, one beyond 64 bits, and an
accessor that fails. -/
theorem Template.Path.resolve_traverses_beyond :
    let items : List Value := [.text "xé", .object (Fixture.article 7 "A" [])]
    let context : Context := .ofScope (.ofPairs [("a", .list items)])
    let item : Path := .ofText "a.00.01".toList 0
    let beyond : Path := .ofText "a.18446744073709551616.b".toList 0
    let author : Path := .ofText "a.1.author.b".toList 0
    let absent := RenderError.missing "18446744073709551616" "['xé', <Article: A>]" ⟨2, 22⟩ (some ⟨0, 1⟩)
    let raised := RenderError.host (.other "author is not loaded")
    context.Fits ∧ (item.resolve context).outcome = .ok (.text "é") ∧
      context.LeadsBy Denotes ["a", "00", "01"] (.text "é") ∧
      (beyond.resolve context).outcome = .error absent ∧ beyond.FailsBy Denotes context absent ∧
      (author.resolve context).outcome = .error raised ∧ author.FailsBy Denotes context raised := by
  intro items context item beyond author absent raised
  have article : (Value.object (Fixture.article 7 "A" [])).Fits := by
    refine .object fun name found value member resolved => ?_
    simp only [Fixture.article] at member
    split at member <;> cases member <;> cases resolved
    · exact .text (by decide)
    · exact .list (by decide) nofun
    · exact .text (by decide +kernel)
  have fits : context.Fits := by
    refine Context.fits_of_scopes (List.forall_mem_cons.mpr ⟨?_, List.forall_mem_singleton.mpr Scope.builtins_fit⟩)
    refine List.forall_mem_singleton.mpr (.list (by decide) (List.forall_mem_cons.mpr ⟨.text (by decide), ?_⟩))
    exact List.forall_mem_singleton.mpr article
  have zero : Denotes "00" 0 := (index?_eq_some_iff.mp (by decide +kernel)).denotes
  have one : Denotes "01" 1 := (index?_eq_some_iff.mp (by decide +kernel)).denotes
  have leads : context.LeadsBy Denotes ["a", "00", "01"] (.text "é") :=
    ⟨.list items, rfl, .next (.item zero rfl) rfl (.next (.character one rfl) rfl .here)⟩
  have missing : (beyond.resolve context).outcome = .error absent :=
    Outcome.of_map_error Value.reprText (by decide +kernel)
  have failed : (author.resolve context).outcome = .error raised :=
    Outcome.of_map_error Value.reprText (by decide +kernel)
  have beyond_fails := ((resolve_traverses beyond context).2.2 fits).2
  have author_fails := ((resolve_traverses author context).2.2 fits).2
  exact ⟨fits, (((resolve_traverses item context).2.2 fits).1 _).mpr leads, leads,
    missing, (beyond_fails _).mp missing, failed, (author_fails _).mp failed⟩

end Stencil
