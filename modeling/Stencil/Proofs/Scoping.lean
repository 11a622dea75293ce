import Stencil.Engine
import Stencil.Fixture.Filters
import Stencil.Proofs.Acceptance
import Stencil.Proofs.Loading

/-! Which filter a name means where it is used: the one last brought into scope under that name, by a builtin
library or by a load tag that stands before the use. -/

set_option autoImplicit false

namespace Stencil

/-- The last of some filters brought into scope under a name. -/
def LastBound (events : List Binding) (name : String) (bound : BoundFilter) : Prop :=
  ∃ earlier later, events = earlier ++ ⟨name, bound⟩ :: later ∧ ∀ event ∈ later, event.name ≠ name

theorem LastBound.mem {events : List Binding} {name : String} {bound : BoundFilter}
    (last : LastBound events name bound) : ⟨name, bound⟩ ∈ events := by
  obtain ⟨earlier, later, rfl, -⟩ := last
  exact List.mem_append_right earlier List.mem_cons_self

theorem lastBound_append_singleton {events : List Binding} {event : Binding} {name : String} {bound : BoundFilter} :
    LastBound (events ++ [event]) name bound ↔
      if event.name = name then event.bound = bound else LastBound events name bound := by
  constructor
  · rintro ⟨earlier, later, split, shadow⟩
    -- The binding is the last of all, or the last of all has another name.
    obtain rfl | ⟨later, last, rfl⟩ := List.eq_nil_or_concat' later
    · obtain ⟨rfl, same⟩ := List.append_inj' split rfl
      cases same
      rw [if_pos rfl]
    · obtain ⟨unshadowed, other⟩ := List.forall_mem_append.mp shadow
      rw [← List.cons_append, ← List.append_assoc] at split
      obtain ⟨rfl, same⟩ := List.append_inj' split rfl
      cases same
      rw [if_neg (other event List.mem_cons_self)]
      exact ⟨earlier, later, rfl, unshadowed⟩
  · intro last
    by_cases named : event.name = name
    · rw [if_pos named] at last
      subst named last
      exact ⟨events, [], rfl, nofun⟩
    · rw [if_neg named] at last
      obtain ⟨earlier, later, rfl, unshadowed⟩ := last
      refine ⟨earlier, later ++ [event], by simp, List.forall_mem_append.mpr ⟨unshadowed, ?_⟩⟩
      exact List.forall_mem_singleton.mpr named

namespace Registry

/-- The filters in scope are the last that were brought into scope under their names, and the names stand in the
order in which they first came into scope. -/
structure Holds (registry : Registry) (events : List Binding) : Prop where
  get : ∀ name bound, registry.get? name = some bound ↔ LastBound events name bound
  names : registry.keys = (events.map Binding.name).eraseDups

theorem holds_empty : Holds .empty [] where
  get _ _ := ⟨nofun, fun ⟨_, _, split, _⟩ => nomatch List.append_eq_nil_iff.mp split.symm⟩
  names := rfl

variable {registry : Registry} {events : List Binding}

theorem Holds.bind (holds : registry.Holds events) (event : Binding) :
    (registry.bind event.name event.bound.filter event.bound.library).Holds (events ++ [event]) where
  get name bound := by
    rw [Registry.bind, OrderedMap.get?_insert, lastBound_append_singleton]
    by_cases named : event.name = name
    · rw [if_pos named, if_pos named, Option.some.injEq]
    · rw [if_neg named, if_neg named]
      exact holds.get name bound
  names := by
    have fresh : event.name ∈ registry.keys ↔ event.name ∈ events.map Binding.name := by
      rw [holds.names, List.mem_eraseDups]
    rw [Registry.bind, OrderedMap.keys_insert, List.map_append, List.eraseDups_append, List.map_singleton,
      List.cons_removeAll, List.nil_removeAll, ← holds.names]
    by_cases known : event.name ∈ events.map Binding.name
    · rw [if_pos (fresh.mpr known), if_neg (by simpa using known), List.eraseDups_nil, List.append_nil]
    · rw [if_neg (fun old => known (fresh.mp old)), if_pos (by simpa using known)]
      rfl

/-- What a run of filters does to the filters in scope. -/
theorem Holds.bindAll (holds : registry.Holds events) (more : List Binding) :
    (registry.bindAll more).Holds (events ++ more) := by
  induction more generalizing registry events with
  | nil => rwa [List.append_nil]
  | cons event more ih =>
    rw [List.append_cons]
    exact ih (holds.bind event)

end Registry

namespace Template

/-- The filters that a token brings into scope, which are those of a load tag. -/
def Token.bindings (catalog : Catalog) : Token → List Binding
  | .tag .block content _ contentSpan =>
    match (Bit.split content contentSpan.start).map Bit.text with
    | "load" :: words => (Load.ofWords words).bindings catalog
    | _ => []
  | _ => []

/-- The filters that are brought into scope up to a place, by the builtin libraries in their order and then by
the tokens before the place. -/
def events (catalog : Catalog) (builtins : List String) (tokens : List Token) : List Binding :=
  (Load.libraries builtins).bindings catalog ++ tokens.flatMap (Token.bindings catalog)

/-- The filter is the one last brought into scope under its name, and takes as many values as it is given. -/
structure FilterUse.BoundBy (events : List Binding) (use : FilterUse) : Prop where
  last : LastBound events use.name ⟨use.filter, use.library⟩
  accepts : use.filter.arity.accepts (1 + use.argument.toList.length) = true

/-- The filters of an expression are those that its text names, each bound by what was brought into scope. -/
structure Expression.BoundBy (events : List Binding) (content : String) (e : Expression) : Prop where
  token : e.token = content
  names : ∃ base filters, Splits content.toList base filters ∧
    e.filters.map (·.name) = filters.map fun f => String.ofList f.name
  uses : ∀ use ∈ e.filters, use.BoundBy events

/-- The node of a token, if it has one, when some filters were brought into scope before it. -/
inductive Token.ReadsAs (catalog : Catalog) (events : List Binding) : Token → Option Node → Prop
  | text {content : String} {span : Span} : ReadsAs catalog events (.text content span) (some (.text content span))
  | comment {content : String} {span contentSpan : Span} :
      ReadsAs catalog events (.tag .comment content span contentSpan) none
  | variable {content : String} {span contentSpan : Span} {e : Expression} : e.BoundBy events content →
      ReadsAs catalog events (.tag .variable content span contentSpan) (some (.variable e span))
  | load {content : String} {span contentSpan : Span} {words : List String} :
      (Bit.split content contentSpan.start).map Bit.text = "load" :: words → (Load.ofWords words).Known catalog →
      ReadsAs catalog events (.tag .block content span contentSpan) (some (.load (Load.ofWords words) span))

/-- The nodes of tokens one behind the other, each with the filters brought into scope before it. -/
inductive Reads (catalog : Catalog) : List Binding → List Token → List Node → Prop
  | nil {events : List Binding} : Reads catalog events [] []
  | cons {events : List Binding} {token : Token} {node : Option Node} {tokens : List Token} {nodes : List Node} :
      token.ReadsAs catalog events node → Reads catalog (events ++ token.bindings catalog) tokens nodes →
      Reads catalog events (token :: tokens) (node.toList ++ nodes)

/-- What filters mean in a template that was read from tokens. -/
structure Scoped (catalog : Catalog) (builtins : List String) (tokens : List Token) (template : Template) : Prop where
  known : (Load.libraries builtins).Known catalog
  reads : Reads catalog (events catalog builtins []) tokens template.nodes
  uses : ∀ earlier e span later, template.nodes = earlier ++ .variable e span :: later →
    ∃ front content contentSpan back, tokens = front ++ .tag .variable content span contentSpan :: back ∧
      Reads catalog (events catalog builtins []) front earlier ∧ e.BoundBy (events catalog builtins front) content
  registry : template.registry.Holds (events catalog builtins tokens)

section
variable {registry : Registry} {events : List Binding} {position : Nat} {filters : List FilterText}
  {uses : List FilterUse}

theorem FilterUse.ReadFrom.boundBy {f : FilterText} {use : FilterUse} (read : use.ReadFrom registry position f)
    (holds : registry.Holds events) : use.BoundBy events := by
  refine ⟨(holds.get _ _).mp read.bound, ?_⟩
  have accepts := read.accepts
  have related := read.argument
  generalize f.argument = text at accepts related
  generalize use.argument = operand at related ⊢
  cases related <;> exact accepts

theorem UsesReadFrom.boundBy (read : UsesReadFrom registry position filters uses) (holds : registry.Holds events) :
    ∀ use ∈ uses, use.BoundBy events := by
  induction filters generalizing position uses with
  | nil =>
    cases uses with
    | nil => exact nofun
    | cons => cases read
  | cons f filters ih =>
    cases uses with
    | nil => cases read
    | cons use uses => exact List.forall_mem_cons.mpr ⟨read.1.boundBy holds, ih read.2⟩

theorem UsesReadFrom.names (read : UsesReadFrom registry position filters uses) :
    uses.map (·.name) = filters.map fun f => String.ofList f.name := by
  induction filters generalizing position uses with
  | nil =>
    cases uses with
    | nil => rfl
    | cons => cases read
  | cons f filters ih =>
    cases uses with
    | nil => cases read
    | cons use uses => rw [List.map_cons, List.map_cons, read.1.name, ih read.2]

theorem Expression.boundBy {content : String} {offset : Nat} {e : Expression} (holds : registry.Holds events)
    (done : ofText registry content.toList offset = .ok e) : e.BoundBy events content := by
  obtain ⟨base, filters, read⟩ := ofText_eq_ok_iff.mp done
  exact ⟨read.token.trans String.ofList_toList, ⟨base, filters, read.splits, read.uses.names⟩, read.uses.boundBy holds⟩

end

section
variable {catalog : Catalog} {source : String} {registry scope : Registry} {events : List Binding}

theorem readBlock_eq_ok_iff {content : String} {span contentSpan : Span} {node : Node} :
    readBlock catalog source registry content span contentSpan = .ok (node, scope) ↔
      ∃ words, (Bit.split content contentSpan.start).map Bit.text = "load" :: words ∧
        (Load.ofWords words).Known catalog ∧ node = .load (Load.ofWords words) span ∧
        scope = registry.bindAll ((Load.ofWords words).bindings catalog) := by
  constructor
  · intro read
    unfold readBlock at read
    split at read
    next => cases read
    next command arguments bits =>
      split at read
      next load =>
        obtain ⟨⟨asked, final⟩, done, same⟩ := Outcome.bind_eq_ok.mp read
        cases same
        obtain ⟨rfl, known, rfl⟩ := Load.ofBits_eq_ok_iff.mp done
        exact ⟨arguments.map Bit.text, by rw [bits, List.map_cons, load], known, rfl, rfl⟩
      next => cases read
  · rintro ⟨words, written, known, rfl, rfl⟩
    obtain ⟨command, arguments, bits, load, rfl⟩ := List.map_eq_cons_iff.mp written
    have done : Load.ofBits catalog registry arguments = .ok (_, _) := Load.ofBits_eq_ok_iff.mpr ⟨rfl, known, rfl⟩
    unfold readBlock
    simp only [bits, if_pos load, done]
    rfl

/-- What reading one token gives and what it does to the filters in scope. -/
theorem readToken_readsAs {token : Token} {node : Option Node} (holds : registry.Holds events)
    (read : readToken catalog source registry token = .ok (node, scope)) :
    token.ReadsAs catalog events node ∧ scope.Holds (events ++ token.bindings catalog) := by
  -- Text, comments and variables bring nothing into scope.
  have unchanged : registry.Holds (events ++ []) := by rwa [List.append_nil]
  cases token with
  | text content span =>
    cases read
    exact ⟨.text, unchanged⟩
  | tag kind content span contentSpan =>
    cases kind with
    | comment =>
      cases read
      exact ⟨.comment, unchanged⟩
    | «variable» =>
      rw [readToken] at read
      split at read
      next => cases read
      next =>
        obtain ⟨e, done, same⟩ := Outcome.bind_eq_ok.mp read
        cases same
        exact ⟨.variable (Expression.boundBy holds done), unchanged⟩
    | block =>
      obtain ⟨⟨load, final⟩, done, same⟩ := Outcome.bind_eq_ok.mp read
      cases same
      obtain ⟨words, written, known, rfl, rfl⟩ := readBlock_eq_ok_iff.mp done
      refine ⟨.load written known, ?_⟩
      simp only [Token.bindings, written]
      exact holds.bindAll _

theorem readTokens_cons_eq_ok_iff {token : Token} {tokens : List Token} {nodes : List Node} :
    readTokens catalog source registry (token :: tokens) = .ok (nodes, scope) ↔
      ∃ node next later, readToken catalog source registry token = .ok (node, next) ∧
        readTokens catalog source next tokens = .ok (later, scope) ∧ nodes = node.toList ++ later := by
  constructor
  · intro read
    obtain ⟨⟨node, next⟩, first, read⟩ := Outcome.bind_eq_ok.mp read
    obtain ⟨⟨later, final⟩, rest, same⟩ := Outcome.bind_eq_ok.mp read
    cases same
    exact ⟨node, next, later, first, rest, rfl⟩
  · rintro ⟨node, next, later, first, rest, rfl⟩
    exact Outcome.bind_eq_ok.mpr ⟨_, first, Outcome.bind_eq_ok.mpr ⟨_, rest, rfl⟩⟩

/-- What reading tokens gives and what it does to the filters in scope. -/
theorem readTokens_reads {tokens : List Token} {nodes : List Node} (holds : registry.Holds events)
    (read : readTokens catalog source registry tokens = .ok (nodes, scope)) :
    Reads catalog events tokens nodes ∧ scope.Holds (events ++ tokens.flatMap (Token.bindings catalog)) := by
  induction tokens generalizing registry events nodes with
  | nil =>
    cases read
    exact ⟨.nil, by rwa [List.flatMap_nil, List.append_nil]⟩
  | cons token tokens ih =>
    obtain ⟨node, next, later, first, rest, rfl⟩ := readTokens_cons_eq_ok_iff.mp read
    obtain ⟨readsAs, holds⟩ := readToken_readsAs holds first
    obtain ⟨reads, holds⟩ := ih holds rest
    refine ⟨.cons readsAs reads, ?_⟩
    rwa [List.flatMap_cons, ← List.append_assoc]

theorem readTokens_append_eq_ok {front back : List Token} {nodes : List Node}
    (read : readTokens catalog source registry (front ++ back) = .ok (nodes, scope)) :
    ∃ first middle last, readTokens catalog source registry front = .ok (first, middle) ∧
      readTokens catalog source middle back = .ok (last, scope) ∧ nodes = first ++ last := by
  induction front generalizing registry nodes with
  | nil => exact ⟨[], registry, nodes, rfl, read, rfl⟩
  | cons token front ih =>
    obtain ⟨node, next, later, here, rest, rfl⟩ := readTokens_cons_eq_ok_iff.mp read
    obtain ⟨first, middle, last, before, behind, rfl⟩ := ih rest
    refine ⟨node.toList ++ first, middle, last, ?_, behind, by rw [List.append_assoc]⟩
    exact readTokens_cons_eq_ok_iff.mpr ⟨node, next, first, here, before, rfl⟩

/-- The source is looked at only to tell the line of a failure. -/
theorem readToken_eq_ok_of_source (other : String) {token : Token} {node : Option Node}
    (read : readToken catalog source registry token = .ok (node, scope)) :
    readToken catalog other registry token = .ok (node, scope) := by
  cases token with
  | text => exact read
  | tag kind content span contentSpan =>
    cases kind with
    | comment => exact read
    | «variable» =>
      rw [readToken] at read ⊢
      by_cases empty : content.isEmpty
      · rw [if_pos empty] at read
        cases read
      · rw [if_neg empty] at read ⊢
        exact read
    | block =>
      obtain ⟨⟨load, final⟩, done, same⟩ := Outcome.bind_eq_ok.mp read
      have also : readBlock catalog other registry content span contentSpan = .ok (load, final) :=
        readBlock_eq_ok_iff.mpr (readBlock_eq_ok_iff.mp done)
      rw [readToken, also]
      exact same

theorem readTokens_eq_ok_of_source (other : String) {tokens : List Token} {nodes : List Node}
    (read : readTokens catalog source registry tokens = .ok (nodes, scope)) :
    readTokens catalog other registry tokens = .ok (nodes, scope) := by
  induction tokens generalizing registry nodes with
  | nil => exact read
  | cons token tokens ih =>
    obtain ⟨node, next, later, first, rest, rfl⟩ := readTokens_cons_eq_ok_iff.mp read
    exact readTokens_cons_eq_ok_iff.mpr ⟨node, next, later, readToken_eq_ok_of_source other first, ih rest, rfl⟩

/-- A variable node comes from a variable tag, and the nodes before it from the tokens before the tag. -/
theorem Reads.of_variable {tokens : List Token} {nodes : List Node} (reads : Reads catalog events tokens nodes) :
    ∀ earlier e span later, nodes = earlier ++ .variable e span :: later →
      ∃ front content contentSpan back, tokens = front ++ .tag .variable content span contentSpan :: back ∧
        Reads catalog events front earlier ∧
        e.BoundBy (events ++ front.flatMap (Token.bindings catalog)) content := by
  induction reads with
  | nil =>
    intro earlier e span later split
    cases List.append_eq_nil_iff.mp split.symm |>.2
  | @cons events token node tokens nodes readsAs reads ih =>
    -- The node stands among those of the later tokens, unless it is the node of this one.
    have among : ∀ earlier e span later, nodes = earlier ++ .variable e span :: later →
        ∃ front content contentSpan back, token :: tokens = front ++ .tag .variable content span contentSpan :: back ∧
          Reads catalog events front (node.toList ++ earlier) ∧
          e.BoundBy (events ++ front.flatMap (Token.bindings catalog)) content := by
      intro earlier e span later split
      obtain ⟨front, content, contentSpan, back, rfl, before, bound⟩ := ih earlier e span later split
      refine ⟨token :: front, content, contentSpan, back, rfl, .cons readsAs before, ?_⟩
      rwa [List.flatMap_cons, ← List.append_assoc]
    intro earlier e span later split
    cases node with
    | none => exact among earlier e span later split
    | some node =>
      cases earlier with
      | cons first earlier =>
        obtain ⟨rfl, rest⟩ := List.cons.inj split
        exact among earlier e span later rest
      | nil =>
        obtain ⟨rfl, -⟩ := List.cons.inj split
        cases readsAs with
        | @«variable» content span contentSpan e bound =>
          refine ⟨[], content, contentSpan, tokens, rfl, .nil, ?_⟩
          rwa [List.flatMap_nil, List.append_nil]

end

theorem events_nil (catalog : Catalog) (builtins : List String) :
    events catalog builtins [] = (Load.libraries builtins).bindings catalog := by
  rw [events, List.flatMap_nil, List.append_nil]

theorem events_append (catalog : Catalog) (builtins : List String) (tokens : List Token) :
    events catalog builtins tokens = events catalog builtins [] ++ tokens.flatMap (Token.bindings catalog) := by
  rw [events_nil, events]

theorem holds_builtins (catalog : Catalog) (builtins : List String) :
    Registry.Holds (.bindAll .empty ((Load.libraries builtins).bindings catalog)) (events catalog builtins []) := by
  rw [events_nil]
  exact Registry.holds_empty.bindAll _

section
variable {catalog : Catalog} {builtins : List String} {source : String} {template : Template}

theorem parse_scoped (done : parse catalog builtins source = .ok template) :
    ∃ tokens, Token.scan source = .ok tokens ∧ Scoped catalog builtins tokens template := by
  obtain ⟨tokens, known, scanned, read⟩ := parse_eq_ok done
  obtain ⟨reads, holds⟩ := readTokens_reads (holds_builtins catalog builtins) read
  rw [← events_append] at holds
  refine ⟨tokens, scanned, known, reads, fun earlier e span later split => ?_, holds⟩
  obtain ⟨front, content, contentSpan, back, rfl, before, bound⟩ := reads.of_variable earlier e span later split
  rw [← events_append] at bound
  exact ⟨front, content, contentSpan, back, rfl, before, bound⟩

/-- All filters of a template come from the catalog. -/
theorem parse_provided (done : parse catalog builtins source = .ok template) {e : Expression} {span : Span}
    (member : Node.variable e span ∈ template.nodes) :
    ∀ use ∈ e.filters, catalog.Provides ⟨use.name, use.filter, use.library⟩ := by
  intro use among
  obtain ⟨tokens, -, scope⟩ := parse_scoped done
  obtain ⟨earlier, later, split⟩ := List.append_of_mem member
  obtain ⟨front, content, contentSpan, back, -, -, bound⟩ := scope.uses earlier e span later split
  rcases List.mem_append.mp (bound.uses use among).last.mem with builtin | loaded
  · exact Load.provided _ _ builtin
  · obtain ⟨token, -, loaded⟩ := List.mem_flatMap.mp loaded
    unfold Token.bindings at loaded
    split at loaded
    next =>
      split at loaded
      next => exact Load.provided _ _ loaded
      next => cases loaded
    next => cases loaded

/-- Sources that start with the same tokens have the same nodes there, whatever is loaded behind. -/
theorem parse_common {other : String} {template' : Template} {front back back' : List Token}
    (scanned : Token.scan source = .ok (front ++ back)) (scanned' : Token.scan other = .ok (front ++ back'))
    (done : parse catalog builtins source = .ok template) (done' : parse catalog builtins other = .ok template') :
    ∃ nodes, Reads catalog (events catalog builtins []) front nodes ∧
      nodes <+: template.nodes ∧ nodes <+: template'.nodes := by
  obtain ⟨tokens, -, same, read⟩ := parse_eq_ok done
  obtain ⟨tokens', -, same', read'⟩ := parse_eq_ok done'
  rw [scanned] at same
  rw [scanned'] at same'
  cases same
  cases same'
  obtain ⟨nodes, middle, last, before, -, split⟩ := readTokens_append_eq_ok read
  obtain ⟨nodes', middle', last', before', -, split'⟩ := readTokens_append_eq_ok read'
  rw [readTokens_eq_ok_of_source source before'] at before
  cases before
  refine ⟨nodes, (readTokens_reads (holds_builtins catalog builtins) before').1, ?_, ?_⟩
  · exact ⟨last, split.symm⟩
  · exact ⟨last', split'.symm⟩

theorem parse_unbound {front back : List Token} {content : String} {span contentSpan : Span} {base : List Char}
    {filters : List FilterText} {f : FilterText}
    (scanned : Token.scan source = .ok (front ++ .tag .variable content span contentSpan :: back))
    (splits : Splits content.toList base filters) (member : f ∈ filters)
    (unbound : ∀ event ∈ events catalog builtins front, event.name ≠ String.ofList f.name) :
    ∃ error, parse catalog builtins source = .error error := by
  cases outcome : parse catalog builtins source with
  | error error => exact ⟨error, rfl⟩
  | ok template =>
    obtain ⟨tokens, -, same, read⟩ := parse_eq_ok outcome
    rw [scanned] at same
    cases same
    -- If all were read, the tag was read with what the tokens before it bring into scope.
    obtain ⟨nodes, scope, others, before, behind, -⟩ := readTokens_append_eq_ok read
    obtain ⟨-, holds⟩ := readTokens_reads (holds_builtins catalog builtins) before
    rw [← events_append] at holds
    obtain ⟨node, next, later, here, -⟩ := readTokens_cons_eq_ok_iff.mp behind
    rw [readToken] at here
    split at here
    next => cases here
    next =>
      obtain ⟨e, done, -⟩ := Outcome.bind_eq_ok.mp here
      obtain ⟨base', filters', found⟩ := Expression.ofText_eq_ok_iff.mp done
      obtain ⟨rfl, rfl⟩ := splits.unique found.splits
      obtain ⟨bound, admitted, -⟩ := usesReadFrom_iff.mp ⟨_, found.uses⟩ f member
      exact absurd rfl (unbound _ ((holds.get _ _).mp admitted).mem)

end

end Template

/-- In a template that an engine reads, every filter that is used is the one last brought into scope under its name
before the use, and takes as many values as it is given. What is loaded behind a place changes nothing before it.
A use of a filter that was not brought into scope before makes reading fail. -/
theorem Engine.parse_scopes (engine : Engine) :
    (∀ source template, engine.parse source = .ok template → ∃ tokens, Template.Token.scan source = .ok tokens ∧
      template.Scoped engine.catalog engine.settings.builtins tokens) ∧
    (∀ source other front back back' template template', Template.Token.scan source = .ok (front ++ back) →
      Template.Token.scan other = .ok (front ++ back') → engine.parse source = .ok template →
      engine.parse other = .ok template' →
      ∃ nodes, Template.Reads engine.catalog (Template.events engine.catalog engine.settings.builtins []) front nodes ∧
        nodes <+: template.nodes ∧ nodes <+: template'.nodes) ∧
    ∀ source front content span contentSpan back base filters, ∀ f ∈ filters,
      Template.Token.scan source = .ok (front ++ .tag .variable content span contentSpan :: back) →
      Template.Splits content.toList base filters →
      (∀ event ∈ Template.events engine.catalog engine.settings.builtins front, event.name ≠ String.ofList f.name) →
      ∃ error, engine.parse source = .error error :=
  ⟨fun _ _ => Template.parse_scoped, fun _ _ _ _ _ _ _ => Template.parse_common,
    fun _ _ _ _ _ _ _ _ _ member scanned splits => Template.parse_unbound scanned splits member⟩

/-- A filter means what was loaded last before it, here by a load tag that shadows a builtin library. Without the tag
the use before it reads alike, and what only the tag brings is unknown before it. -/
theorem Engine.parse_scopes_shadowed :
    let engine : Engine := ⟨{ builtins := ["custom_filters"] }, Fixture.libraries.catalog⟩
    let source := "\x7b\x7b x|double \x7d\x7d\x7b% load shadow_filters %\x7d\x7b\x7b x|double \x7d\x7d"
    let use : Template.Token := .tag .variable "x|double" ⟨0, 14⟩ ⟨3, 11⟩
    let origins (template : Template) : List String := template.nodes.flatMap fun
      | .variable e _ => e.filters.map (·.library)
      | _ => []
    (∃ template tokens, engine.parse source = .ok template ∧ origins template = ["custom_filters", "shadow_filters"] ∧
      Template.Token.scan source = .ok tokens ∧ template.Scoped engine.catalog ["custom_filters"] tokens ∧
      ∃ template' nodes, engine.parse "\x7b\x7b x|double \x7d\x7d" = .ok template' ∧
        Template.Reads engine.catalog (Template.events engine.catalog ["custom_filters"] []) [use] nodes ∧
        nodes <+: template.nodes ∧ nodes <+: template'.nodes) ∧
    ∃ error, engine.parse "\x7b\x7b x|square \x7d\x7d\x7b% load shadow_filters %\x7d" = .error error := by
  intro engine source use origins
  obtain ⟨scopes, common, unbound⟩ := parse_scopes engine
  constructor
  · have read : (engine.parse source).toOption.map origins = some ["custom_filters", "shadow_filters"] := by
      decide +kernel
    have alone : (engine.parse "\x7b\x7b x|double \x7d\x7d").toOption.isSome = true := by decide +kernel
    obtain ⟨template, parsed, found⟩ := Option.map_eq_some_iff.mp read
    obtain ⟨template', parsed'⟩ := Option.isSome_iff_exists.mp alone
    have done := Outcome.of_toOption parsed
    have done' := Outcome.of_toOption parsed'
    obtain ⟨tokens, scanned, inScope⟩ := scopes source template done
    have scan : Template.Token.scan source = .ok ([use] ++
        [.tag .block "load shadow_filters" ⟨14, 39⟩ ⟨17, 36⟩, .tag .variable "x|double" ⟨39, 53⟩ ⟨42, 50⟩]) := by
      decide +kernel
    have scan' : Template.Token.scan "\x7b\x7b x|double \x7d\x7d" = .ok ([use] ++ []) := by decide +kernel
    obtain ⟨nodes, reads, front, front'⟩ := common _ _ _ _ _ _ _ scan scan' done done'
    exact ⟨template, tokens, done, found, scanned, inScope, template', nodes, done', reads, front, front'⟩
  · have parts : Template.Splits "x|square".toList ['x'] [⟨['|'], "square".toList, none⟩] :=
      Template.splits_iff.mpr ⟨"|square".toList, by decide +kernel, by decide +kernel⟩
    have scan : Template.Token.scan "\x7b\x7b x|square \x7d\x7d\x7b% load shadow_filters %\x7d" = .ok ([] ++
        .tag .variable "x|square" ⟨0, 14⟩ ⟨3, 11⟩ :: [.tag .block "load shadow_filters" ⟨14, 39⟩ ⟨17, 36⟩]) := by
      decide +kernel
    exact unbound _ _ _ _ _ _ _ _ _ List.mem_cons_self scan parts (by decide +kernel)

end Stencil
