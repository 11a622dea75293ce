import Stencil.Fixture.Filters
import Stencil.Proofs.ShiftedRender

/-! Builtin libraries and a load tag at the front of a source: a template means the same either way. -/

set_option autoImplicit false

namespace Stencil

open Text (byteLength isBlank splitAtPair trim)

namespace Text

/-- A pair is found where it stands, if there is none in the text up to and with its first character. -/
theorem splitAtPair_behind {a b : Char} {cs : List Char} (none : ¬[a, b] <:+: cs ++ [a]) (rest : List Char) :
    splitAtPair a b (cs ++ a :: b :: rest) = some (cs, rest) := by
  induction cs with
  | nil => simp [splitAtPair]
  | cons c cs ih =>
    rw [List.cons_append, List.infix_cons_iff, not_or] at none
    obtain ⟨here, later⟩ := none
    obtain ⟨d, more, next⟩ : ∃ d more, cs ++ [a] = d :: more := List.exists_cons_of_ne_nil (by simp)
    have follows : cs ++ a :: b :: rest = d :: (more ++ b :: rest) := by
      rw [List.append_cons, next, List.cons_append]
    have apart : ¬(c = a ∧ d = b) := by
      rintro ⟨rfl, rfl⟩
      exact here ⟨more, by rw [next]; rfl⟩
    have found := ih later
    rw [follows] at found
    rw [List.cons_append, follows, splitAtPair, if_neg apart, found]
    rfl

/-- A pair of two characters that does not occur before is found where it stands. -/
theorem splitAtPair_append {a b : Char} (other : a ≠ b) {cs : List Char} (none : ¬[a, b] <:+: cs) (rest : List Char) :
    splitAtPair a b (cs ++ a :: b :: rest) = some (cs, rest) := by
  refine splitAtPair_behind (fun found => ?_) rest
  rcases List.infix_concat_iff.mp found with ⟨front, ends⟩ | inside
  · have last : b = a := by simpa using congrArg List.getLast? ends
    exact other last.symm
  · exact none inside

theorem takeBytes?_append_add (front cs : List Char) (width : Nat) :
    takeBytes? (front ++ cs) (byteLength front + width) = (takeBytes? cs width).map (front ++ ·) := by
  induction front with
  | nil => simp
  | cons c front ih =>
    obtain ⟨stop, more⟩ : ∃ stop, byteLength (c :: front) + width = stop + 1 :=
      ⟨byteLength (c :: front) + width - 1, by have := c.utf8Size_pos; simp; omega⟩
    have rest : stop + 1 - c.utf8Size = byteLength front + width := by rw [← more]; simp; omega
    rw [List.cons_append, more, takeBytes?, if_pos (by rw [← more]; simp; omega), rest, ih, Option.map_map]
    rfl

end Text

namespace Template

/-- A word that a tag can hold: there is text in it, without blanks and quotes and without the mark that closes
the tag. -/
structure IsTagWord (word : String) : Prop where
  some_ : word ≠ ""
  unblank : ∀ c ∈ word.toList, isBlank c = false
  unquoted : ∀ c ∈ word.toList, c ≠ '\'' ∧ c ≠ '"'
  open_ : ¬['%', '\x7d'] <:+: word.toList

instance (word : String) : Decidable (IsTagWord word) :=
  decidable_of_iff (word ≠ "" ∧ word.toList.all (fun c => !isBlank c && c != '\'' && c != '"') ∧
      ¬['%', '\x7d'] <:+: word.toList) <| by
    simp only [List.all_eq_true, Bool.and_eq_true, Bool.not_eq_true', bne_iff_ne]
    exact ⟨fun ⟨some_, plain, open_⟩ => ⟨some_, fun c among => (plain c among).1.1,
        fun c among => ⟨(plain c among).1.2, (plain c among).2⟩, open_⟩,
      fun formed => ⟨formed.some_, fun c among => ⟨⟨formed.unblank c among, (formed.unquoted c among).1⟩,
        (formed.unquoted c among).2⟩, formed.open_⟩⟩

/-- Words, each behind a blank. -/
def spaced (words : List String) : List Char := words.flatMap fun word => ' ' :: word.toList

/-- The tag that loads some libraries. -/
def Load.tag (names : List String) : String := "\x7b% load" ++ String.ofList (spaced names) ++ " %\x7d"

section
variable {words : List String}

theorem open_spaced (formed : ∀ word ∈ words, IsTagWord word) : ¬['%', '\x7d'] <:+: spaced words ++ [' '] := by
  induction words with
  | nil => decide
  | cons word words ih =>
    obtain ⟨here, later⟩ := List.forall_mem_cons.mp formed
    -- Behind a word stands a blank, so the mark is in the word or behind that blank.
    obtain ⟨rest, behind⟩ : ∃ rest, spaced words ++ [' '] = ' ' :: rest := by
      cases words with
      | nil => exact ⟨[], rfl⟩
      | cons next words => exact ⟨_, rfl⟩
    rw [spaced, List.flatMap_cons, List.cons_append, List.cons_append, List.append_assoc, ← spaced,
      List.infix_cons_iff, List.infix_append_iff_ne_nil]
    rintro (starts | inside | inside | ⟨left, right, -, some_, split, -, starts⟩)
    · exact absurd (List.cons_prefix_cons.mp starts).1 (by decide)
    · exact here.open_ inside
    · exact ih later inside
    · obtain ⟨c, right, rfl⟩ := List.exists_cons_of_ne_nil some_
      rw [behind] at starts
      obtain ⟨rfl, -⟩ := List.cons_prefix_cons.mp starts
      have blank : ' ' ∈ ['%', '\x7d'] := split ▸ List.mem_append_right left List.mem_cons_self
      exact absurd blank (by decide)

theorem Bit.splitFrom_word {word : List Char} (unblank : ∀ c ∈ word, isBlank c = false)
    (unquoted : ∀ c ∈ word, c ≠ '\'' ∧ c ≠ '"') (position : Nat) (pending rest : List Char) :
    splitFrom position .outside pending (word ++ rest) =
      splitFrom (position + byteLength word) .outside (word.reverse ++ pending) rest := by
  induction word generalizing position pending with
  | nil => rfl
  | cons c word ih =>
    obtain ⟨shown, unblank⟩ := List.forall_mem_cons.mp unblank
    obtain ⟨plain, unquoted⟩ := List.forall_mem_cons.mp unquoted
    have outside : Quoting.next .outside c = .outside := by simp [Quoting.next, plain]
    rw [List.cons_append, splitFrom, if_neg (by simp [shown]), outside, ih unblank unquoted, Text.byteLength_cons,
      Nat.add_assoc, List.reverse_cons, List.append_assoc]
    rfl

theorem Bit.splitFrom_spaced (formed : ∀ word ∈ words, IsTagWord word) (position : Nat) {pending : List Char}
    (some_ : pending ≠ []) :
    (splitFrom position .outside pending (spaced words)).map Bit.text = String.ofList pending.reverse :: words := by
  have last (stop : Nat) : (ofReversed pending stop).map Bit.text = [String.ofList pending.reverse] := by
    simp [ofReversed, some_]
  induction words generalizing position pending with
  | nil => exact last position
  | cons word words ih =>
    obtain ⟨here, later⟩ := List.forall_mem_cons.mp formed
    have some' : word.toList ≠ [] := by simpa using here.some_
    rw [spaced, List.flatMap_cons, ← spaced, List.cons_append, splitFrom, if_pos (by decide), List.map_append, last,
      splitFrom_word here.unblank here.unquoted, List.append_nil, ih later _ (by simpa using some')]
    · simp
    · intro stop
      simp [ofReversed, some']

theorem last_spaced (formed : ∀ word ∈ words, IsTagWord word) {front : List Char}
    (unblank : ∀ c ∈ front, isBlank c = false) :
    ∀ c, (front ++ spaced words).getLast? = some c → isBlank c = false := by
  intro c last
  -- The word before is the front of what is left, as the last character may be in it.
  induction words generalizing front with
  | nil =>
    rw [spaced, List.flatMap_nil, List.append_nil] at last
    exact unblank c (List.mem_of_getLast? last)
  | cons word words ih =>
    obtain ⟨here, later⟩ := List.forall_mem_cons.mp formed
    have some_ : word.toList ++ spaced words ≠ [] := by simp [here.some_]
    rw [spaced, List.flatMap_cons, ← spaced, List.cons_append, List.append_cons,
      List.getLast?_append_of_ne_nil _ some_] at last
    exact ih later here.unblank last

end

theorem lineOf_behind {front : String} (oneLine : '\n' ∉ front.toList) (source : String) (span : Span) :
    lineOf (front ++ source) (span.shift (byteLength front.toList)) = lineOf source span := by
  have start : min (span.start + byteLength front.toList) (byteLength front.toList + byteLength source.toList) =
      byteLength front.toList + min span.start (byteLength source.toList) := by omega
  simp only [lineOf, Span.lineColumn, Span.shift, String.toList_append, Text.byteLength_append, start,
    Text.takeBytes?_append_add, Span.positionAfter]
  cases Text.takeBytes? source.toList (min span.start (byteLength source.toList)) <;>
    simp [List.count_append, List.count_eq_zero.mpr oneLine]

theorem Token.scanFrom_tag (kind : Delimiter) {position : Nat} {pending inner after rest : List Char}
    (closed : splitAtPair kind.closing '\x7d' rest = some (inner, after)) (oneLine : '\n' ∉ inner) :
    scanFrom position pending ('\x7b' :: kind.opening :: rest) = (do
      let tokens ← scanFrom (position + 4 + byteLength inner) [] after
      return ofText pending position ++ ofTag kind position inner :: tokens) := by
  have opened : Delimiter.atStart? ('\x7b' :: kind.opening :: rest) = some kind := by cases kind <;> rfl
  rw [scanFrom, opened]
  simp only [List.tail_cons]
  split
  next found => rw [closed] at found; cases found
  next found =>
    rw [closed] at found
    cases found
    rw [if_neg (by simpa using oneLine)]

section
variable {names : List String}

/-- The text between the marks of the tag. -/
def Load.tagInner (names : List String) : List Char := spaced ("load" :: names) ++ [' ']

theorem Load.tag_toList (names : List String) :
    (tag names).toList = '\x7b' :: '%' :: (tagInner names ++ ['%', '\x7d']) := by
  simp [tag, tagInner, spaced]

example : Load.tag ["forms", "dates"] = "\x7b% load forms dates %\x7d" := by decide +kernel

theorem isTagWord_load : IsTagWord "load" := by decide

theorem Load.tagInner_oneLine (formed : ∀ name ∈ names, IsTagWord name) : '\n' ∉ tagInner names := by
  intro newline
  rcases List.mem_append.mp newline with inside | last
  · obtain ⟨word, among, member⟩ := List.mem_flatMap.mp inside
    rcases List.mem_cons.mp member with space | member
    · exact absurd space (by decide)
    · have unblank := (List.forall_mem_cons.mpr ⟨isTagWord_load, formed⟩ word among).unblank _ member
      exact absurd unblank (by decide)
  · exact absurd (List.mem_singleton.mp last) (by decide)

theorem Load.trim_tagInner (formed : ∀ name ∈ names, IsTagWord name) :
    trim (tagInner names) = "load".toList ++ spaced names := by
  have load : spaced ("load" :: names) = [' '] ++ ("load".toList ++ spaced names) := rfl
  have blank : ∀ c ∈ [' '], isBlank c = true := List.forall_mem_singleton.mpr rfl
  rw [tagInner, load, List.append_assoc]
  refine Text.trim_run blank blank (fun c head => ?_) (last_spaced formed isTagWord_load.unblank)
  cases head
  decide

theorem Load.width_tag (names : List String) :
    byteLength (tag names).toList = 4 + byteLength (tagInner names) := by
  rw [tag_toList, Text.byteLength_cons, Text.byteLength_cons, Text.byteLength_append]
  have marks : '\x7b'.utf8Size = 1 ∧ '%'.utf8Size = 1 ∧ byteLength ['%', '\x7d'] = 2 := by decide
  omega

/-- The tag in front of a source is its first token; all others are those of the source, shifted behind it. -/
theorem Load.scan_tag (formed : ∀ name ∈ names, IsTagWord name) (source : String) :
    Token.scan (tag names ++ source) = shifted (byteLength (tag names).toList)
      (fun tokens => .ofTag .block 0 (tagInner names) :: tokens.map (Token.shift (byteLength (tag names).toList)))
      (Token.scan source) := by
  have opened : (tag names ++ source).toList =
      '\x7b' :: '%' :: (tagInner names ++ '%' :: '\x7d' :: source.toList) := by
    simp [tag_toList]
  have closed : splitAtPair '%' '\x7d' (tagInner names ++ '%' :: '\x7d' :: source.toList) =
      some (tagInner names, source.toList) :=
    Text.splitAtPair_append (by decide) (open_spaced (List.forall_mem_cons.mpr ⟨isTagWord_load, formed⟩)) source.toList
  have behind : 0 + 4 + byteLength (tagInner names) = 0 + byteLength (tag names).toList := by
    rw [width_tag]
    omega
  rw [Token.scan, opened]
  refine (Token.scanFrom_tag .block closed (tagInner_oneLine formed)).trans ?_
  rw [behind, Token.shift_scanFrom _ (Nat.zero_le _), Token.scan]
  cases Token.scanFrom 0 [] source.toList <;> rfl

theorem Load.ofWords_libraries (whole : ∀ front library, names = front ++ ["from", library] → front = []) :
    ofWords names = .libraries names := by
  unfold ofWords
  dsimp only
  split
  next library last =>
    have none := whole _ library (by rw [← last, List.take_append_drop])
    rw [none]
    rfl
  next => rfl

/-- The tag is read as a load of the libraries. -/
theorem Load.readToken_tag {catalog : Catalog} (source : String) (formed : ∀ name ∈ names, IsTagWord name)
    (known : (Load.libraries names).Known catalog)
    (whole : ∀ front library, names = front ++ ["from", library] → front = []) :
    readToken catalog source .empty (.ofTag .block 0 (tagInner names)) =
      .ok (some (.load (.libraries names) ⟨0, byteLength (tag names).toList⟩),
        Registry.bindAll .empty ((Load.libraries names).bindings catalog)) := by
  have words (offset : Nat) : (Bit.split (String.ofList (trim (tagInner names))) offset).map Bit.text = "load" :: names := by
    rw [trim_tagInner formed, Bit.split, String.toList_ofList,
      Bit.splitFrom_word isTagWord_load.unblank isTagWord_load.unquoted, List.append_nil,
      Bit.splitFrom_spaced formed _ (by decide)]
    rfl
  have read (span contentSpan : Span) :
      readBlock catalog source .empty (String.ofList (trim (tagInner names))) span contentSpan =
        .ok (.load (.libraries names) span, Registry.bindAll .empty ((Load.libraries names).bindings catalog)) := by
    rw [← ofWords_libraries whole] at known ⊢
    exact readBlock_eq_ok_iff.mpr ⟨names, words _, known, rfl, rfl⟩
  rw [Token.ofTag, readToken, read, width_tag]
  simp [bind, Except.bind, pure, Except.pure]

end

/-- The builtin libraries do what a tag that loads them does at the front of the source. -/
theorem parse_tag {catalog : Catalog} {names : List String} (formed : ∀ name ∈ names, IsTagWord name)
    (known : (Load.libraries names).Known catalog)
    (whole : ∀ front library, names = front ++ ["from", library] → front = []) (source : String) :
    let width := byteLength (Load.tag names).toList
    parse catalog [] (Load.tag names ++ source) = shifted width (fun template : Template =>
      ⟨Load.tag names ++ source, .load (.libraries names) ⟨0, width⟩ :: template.nodes.map (Node.shift width),
        template.registry⟩) (parse catalog names source) := by
  intro width
  have oneLine : '\n' ∉ (Load.tag names).toList := by
    have inner := Load.tagInner_oneLine formed
    simp [Load.tag_toList, inner]
  have lines := lineOf_behind oneLine source
  have loaded : loadLibraries catalog .empty (names.map (⟨·, ⟨0, 0⟩⟩)) =
      .ok (Registry.bindAll .empty ((Load.libraries names).bindings catalog)) :=
    loadLibraries_builtins.mpr ⟨known, rfl⟩
  have rest (tokens : List Token) : readTokens catalog (Load.tag names ++ source) .empty
      (.ofTag .block 0 (Load.tagInner names) :: tokens.map (Token.shift width)) =
        shifted width (Prod.map (Node.load (.libraries names) ⟨0, width⟩ :: List.map (Node.shift width) ·) id)
          (readTokens catalog source (Registry.bindAll .empty ((Load.libraries names).bindings catalog)) tokens) := by
    rw [readTokens, Load.readToken_tag _ formed known whole]
    simp only [bind, Except.bind, shift_readTokens width _ catalog lines]
    cases readTokens catalog source (Registry.bindAll .empty ((Load.libraries names).bindings catalog)) tokens <;> rfl
  rw [parse, parse, loaded, Load.scan_tag formed]
  refine shifted_bind width (Token.scan source) fun tokens => ?_
  rw [rest]
  exact shifted_bind width _ fun made => rfl

/-- Builtins matter for reading only. -/
theorem renderNodes_builtins (context : Context) (settings : Settings) (some_ other : List String) (nodes : List Node) :
    renderNodes context { settings with builtins := some_ } nodes =
      renderNodes context { settings with builtins := other } nodes := by
  induction nodes with
  | nil => rfl
  | cons node nodes ih =>
    rw [renderNodes, renderNodes, ih]
    cases node <;> rfl

end Template

/-- Builtin libraries are loaded as by a tag at the front of every source: with the tag there and no builtins, reading
fails with the same error behind the tag, or gives the node of the tag and behind it the same nodes, and the same
filters are in scope. Both templates render to the same text, or fail with the same error but for where it stands. -/
theorem Engine.parse_builtins (settings : Settings) (catalog : Catalog) {names : List String}
    (formed : ∀ name ∈ names, Template.IsTagWord name) (known : ∀ name ∈ names, (catalog.find? name).isSome)
    (whole : ∀ front library, names = front ++ ["from", library] → front = []) (source : String) :
    let builtin : Engine := ⟨{ settings with builtins := names }, catalog⟩
    let bare : Engine := ⟨{ settings with builtins := [] }, catalog⟩
    let tag := Template.Load.tag names
    let width := tag.utf8ByteSize
    (∀ error, builtin.parse source = .error error → bare.parse (tag ++ source) = .error (error.shift width)) ∧
    ∀ template, builtin.parse source = .ok template → ∃ other, bare.parse (tag ++ source) = .ok other ∧
      other.registry = template.registry ∧
      other.nodes = .load (.libraries names) ⟨0, width⟩ :: template.nodes.map (Template.Node.shift width) ∧
      ∀ context, bare.render other context = (builtin.render template context).shift width := by
  intro builtin bare tag width
  have same := Template.parse_tag formed known whole source
  simp only [Text.byteLength_toList] at same
  refine ⟨fun error failed => ?_, fun template read => ?_⟩
  · have failed : Template.parse catalog names source = .error error := failed
    rw [failed] at same
    exact same
  · have read : Template.parse catalog names source = .ok template := read
    rw [read] at same
    refine ⟨_, same, rfl, rfl, fun context => ?_⟩
    have behind : bare.render ⟨tag ++ source, .load (.libraries names) ⟨0, width⟩ ::
        template.nodes.map (Template.Node.shift width), template.registry⟩ context =
          Template.renderNodes context bare.settings (template.nodes.map (Template.Node.shift width)) := by
      have nothing : (HAppend.hAppend "" : String → String) = id := funext fun _ => String.empty_append
      simp [Engine.render, Template.render, Template.renderNodes, Template.Node.render, nothing, -Evaluation.pure_eq]
    rw [behind, Template.shift_renderNodes]
    exact congrArg (Evaluation.shift width) (Template.renderNodes_builtins context settings [] names template.nodes)

/-- Of two builtin libraries the first provides the filter; the name that is missing stands behind the tag. -/
theorem Engine.parse_builtins_missing :
    let settings : Settings := { undefined := .strict }
    let names := ["custom_filters", "more_filters"]
    let builtin : Engine := ⟨{ settings with builtins := names }, Fixture.libraries.catalog⟩
    let bare : Engine := ⟨{ settings with builtins := [] }, Fixture.libraries.catalog⟩
    let source := "\x7b\x7b a|double \x7d\x7d"
    (∀ name ∈ names, Template.IsTagWord name) ∧
    (∀ front library, names = front ++ ["from", library] → front = []) ∧
    ∃ template other, builtin.parse source = .ok template ∧
      bare.parse ("\x7b% load custom_filters more_filters %\x7d" ++ source) = .ok other ∧
      (builtin.render template .empty).outcome = .error (.missing "a" Context.empty.repr ⟨3, 4⟩ none) ∧
      (bare.render other .empty).outcome = .error (.missing "a" Context.empty.repr ⟨41, 42⟩ none) := by
  intro settings names builtin bare source
  have formed : ∀ name ∈ names, Template.IsTagWord name := by decide
  have whole : ∀ front library, names = front ++ ["from", library] → front = [] := by
    rintro (_ | ⟨first, front⟩) library split
    · rfl
    · -- Only two names are given.
      have few := congrArg List.length split
      simp [names] at few
  have known : ∀ name ∈ names, (Fixture.libraries.catalog.find? name).isSome := by decide +kernel
  have done : (builtin.parse source).toOption.map (fun template => (builtin.render template .empty).outcome) =
      some (.error (.missing "a" Context.empty.repr ⟨3, 4⟩ none)) := by decide +kernel
  obtain ⟨template, parsed, failed⟩ := Option.map_eq_some_iff.mp done
  have read : builtin.parse source = .ok template := Outcome.of_toOption parsed
  obtain ⟨other, same, -, -, rendered⟩ :=
    (Engine.parse_builtins settings Fixture.libraries.catalog formed known whole source).2 template read
  refine ⟨formed, whole, template, other, read, same, failed, ?_⟩
  have width : (Template.Load.tag names).utf8ByteSize = 38 := by decide +kernel
  rw [rendered, Evaluation.shift, failed, width]
  rfl

end Stencil
