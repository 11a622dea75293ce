import Stencil.Proofs.Documents
import Stencil.Proofs.Outcome
import Stencil.Settings.Decode

/-! What settings depend on: what documents hold under the keys of the settings, and the variables of the environment
above that. -/

set_option autoImplicit false

namespace Stencil

/-- The formats of documents that settings are read from. -/
inductive Format where
  | json
  | toml
  deriving DecidableEq, Repr

def Format.read? : Format → String → Option Json
  | .json => Json.read?
  | .toml => Toml.read?

def Settings.ofText : Format → String → Except ConfigError Settings
  | .json => ofJson
  | .toml => ofToml

/-- One of the settings. -/
inductive Setting where
  | autoescape
  | undefined
  | stringIfInvalid
  | builtins
  | debug
  | logLevel
  | diagnosticWidth
  deriving DecidableEq, Repr

def Undefined.name : Undefined → String
  | .strict => "strict"
  | .lenient => "lenient"

namespace Setting

/-- The key under which documents hold the setting. -/
def key : Setting → String
  | .autoescape => "autoescape"
  | .undefined => "undefined"
  | .stringIfInvalid => "string_if_invalid"
  | .builtins => "builtins"
  | .debug => "debug"
  | .logLevel => "log_level"
  | .diagnosticWidth => "diagnostic_width"

abbrev Content : Setting → Type
  | .autoescape | .debug => Bool
  | .undefined => Undefined
  | .stringIfInvalid | .logLevel => String
  | .builtins => List String
  | .diagnosticWidth => Nat

def get : (setting : Setting) → Settings → setting.Content
  | .autoescape => Settings.autoescape
  | .undefined => Settings.undefined
  | .stringIfInvalid => Settings.stringIfInvalid
  | .builtins => Settings.builtins
  | .debug => Settings.debug
  | .logLevel => Settings.logLevel
  | .diagnosticWidth => Settings.diagnosticWidth

def set : (setting : Setting) → setting.Content → Settings → Settings
  | .autoescape, content, settings => { settings with autoescape := content }
  | .undefined, content, settings => { settings with undefined := content }
  | .stringIfInvalid, content, settings => { settings with stringIfInvalid := content }
  | .builtins, content, settings => { settings with builtins := content }
  | .debug, content, settings => { settings with debug := content }
  | .logLevel, content, settings => { settings with logLevel := content }
  | .diagnosticWidth, content, settings => { settings with diagnosticWidth := content }

/-- What stands in a document for a content of the setting. -/
def Holds : (setting : Setting) → setting.Content → Json → Prop
  | .autoescape, b, json | .debug, b, json => json = .bool b
  | .undefined, behaviour, json => json = .string behaviour.name ∨ json = .object [(behaviour.name, .null)]
  | .stringIfInvalid, s, json | .logLevel, s, json => json = .string s
  | .builtins, names, json => json = .array (names.map .string)
  | .diagnosticWidth, n, json => json = .number (.integer n)

/-- The content is what stands in a document, or as at the start if nothing stands there. -/
def Follows (setting : Setting) (found : Option Json) (start content : setting.Content) : Prop :=
  match found with
  | some json => setting.Holds content json
  | none => content = start

/-- What the environment says about the setting, if there is a variable for it and the variable is set. Some words switch
on, whatever the case of their letters, and all others switch off. -/
def ofVariables? (env : String → Option String) : (setting : Setting) → Option setting.Content
  | .autoescape => (env "RUSTY_TEMPLATES_AUTOESCAPE").map (Text.lower · ∈ ["true", "1", "yes"])
  | .debug => (env "RUSTY_TEMPLATES_DEBUG").map (Text.lower · ∈ ["true", "1", "yes"])
  | .logLevel => env "RUSTY_TEMPLATES_LOG_LEVEL"
  | .stringIfInvalid => env "RUSTY_TEMPLATES_STRING_IF_INVALID"
  | .undefined | .builtins | .diagnosticWidth => none

end Setting

/-- Each of the settings follows what stands under its key in a document. -/
def Settings.Follows (entries : Entries Json) (start settings : Settings) : Prop :=
  ∀ setting : Setting, setting.Follows (entries.get? setting.key) (setting.get start) (setting.get settings)

theorem Undefined.ofName_eq_ok_iff {name : String} {undefined : Undefined} :
    Undefined.ofName name = .ok undefined ↔ name = undefined.name := by
  unfold Undefined.ofName
  split
  next same => cases undefined <;> simp [same, Undefined.name]
  next strict =>
    split
    next same => cases undefined <;> simp [same, Undefined.name]
    next lenient => cases undefined <;> simp [strict, lenient, Undefined.name]

namespace Json

theorem asBool_eq_ok_iff {json : Json} {b : Bool} : json.asBool = .ok b ↔ json = .bool b := by
  cases json <;> simp [asBool]

theorem asText_eq_ok_iff {json : Json} {s : String} : json.asText = .ok s ↔ json = .string s := by
  cases json <;> simp [asText]

theorem asTexts_eq_ok_iff {json : Json} {names : List String} :
    json.asTexts = .ok names ↔ json = .array (names.map .string) := by
  have each {items : List Json} : items.mapM asText = .ok names ↔ items = names.map .string := by
    induction items generalizing names with
    | nil => cases names <;> simp [pure, Except.pure]
    | cons item items ih =>
      rw [List.mapM_cons]
      constructor
      · intro read
        obtain ⟨name, first, read⟩ := Outcome.bind_eq_ok.mp read
        obtain ⟨others, rest, same⟩ := Outcome.bind_eq_ok.mp read
        cases same
        rw [asText_eq_ok_iff.mp first, ih.mp rest, List.map_cons]
      · intro same
        cases names with
        | nil => cases same
        | cons name names =>
          obtain ⟨rfl, rest⟩ := List.cons.inj same
          exact Outcome.bind_eq_ok.mpr ⟨name, rfl, Outcome.bind_eq_ok.mpr ⟨names, ih.mpr rest, rfl⟩⟩
  cases json with
  | array items => simpa [asTexts] using each
  | _ => simp [asTexts]

theorem asSize_eq_ok_iff {json : Json} {n : Nat} : json.asSize = .ok n ↔ json = .number (.integer n) := by
  cases json with
  | number number =>
    cases number with
    | integer m =>
      by_cases negative : m < 0
      · have other : m ≠ n := by omega
        simp [asSize, negative, other]
      · have same : m.toNat = n ↔ m = n := by omega
        simp [asSize, negative, same]
    | float => simp [asSize]
  | _ => simp [asSize]

theorem asUndefined_eq_ok_iff {json : Json} {undefined : Undefined} : json.asUndefined = .ok undefined ↔
    json = .string undefined.name ∨ json = .object [(undefined.name, .null)] := by
  unfold asUndefined
  split
  next name => simp [Undefined.ofName_eq_ok_iff]
  next name content =>
    constructor
    · intro read
      obtain ⟨value, named, read⟩ := Outcome.bind_eq_ok.mp read
      split at read
      next =>
        cases read
        rw [Undefined.ofName_eq_ok_iff.mp named]
        exact Or.inr rfl
      next => cases read
    · rintro (same | same)
      · cases same
      · cases same
        exact Outcome.bind_eq_ok.mpr ⟨undefined, Undefined.ofName_eq_ok_iff.mpr rfl, rfl⟩
  next entries other =>
    refine ⟨nofun, ?_⟩
    rintro (same | same)
    · cases same
    · cases same
      exact absurd rfl (other _ _)
  next string _ object =>
    refine ⟨nofun, ?_⟩
    rintro (rfl | rfl)
    · exact absurd rfl (string _)
    · exact absurd rfl (object _)

theorem Matches.eq_single {other : Json} {name : String} (same : Matches (.object [(name, .null)]) other) :
    other = .object [(name, .null)] := by
  cases same with
  | @object _ others length keys each =>
    match others, length with
    | [(key, inner)], _ =>
      obtain rfl : name = key := by simpa [Entries.keys] using keys name
      cases each name .null inner (if_pos rfl) (if_pos rfl)
      rfl

theorem Matches.eq_texts {other : Json} {names : List String} (same : Matches (.array (names.map .string)) other) :
    other = .array (names.map .string) := by
  cases same with
  | @array _ others length each =>
    refine congrArg Json.array (List.ext_getElem length.symm fun index inside inside' => ?_)
    have here := each index _ _ (List.getElem?_eq_getElem inside') (List.getElem?_eq_getElem inside)
    rw [List.getElem_map] at here ⊢
    generalize others[index] = other at here ⊢
    cases here
    rfl

/-- Documents that match hold the same contents. -/
theorem Matches.holds {json other : Json} (same : json.Matches other) {setting : Setting} {content : setting.Content}
    (holds : setting.Holds content json) : setting.Holds content other := by
  cases setting with
  | autoescape | debug | stringIfInvalid | logLevel | diagnosticWidth =>
    cases holds
    cases same
    rfl
  | undefined =>
    rcases holds with rfl | rfl
    · cases same
      exact Or.inl rfl
    · exact Or.inr same.eq_single
  | builtins =>
    cases holds
    exact same.eq_texts

end Json

namespace Setting

theorem get_set (setting : Setting) (content : setting.Content) (settings : Settings) :
    setting.get (setting.set content settings) = content := by
  cases setting <;> rfl

theorem get_set_of_ne {setting other : Setting} (different : other ≠ setting) (content : setting.Content)
    (settings : Settings) : other.get (setting.set content settings) = other.get settings := by
  cases setting <;> cases other <;> first | rfl | exact absurd rfl different

theorem key_inj {setting other : Setting} (same : setting.key = other.key) : setting = other := by
  cases setting <;> cases other <;> first | rfl | exact absurd same (by decide)

/-- A content under the key of its setting becomes the setting, and nothing else changes. -/
theorem setKey_eq_ok_iff (setting : Setting) {start settings : Settings} {json : Json} :
    start.setKey setting.key json = .ok settings ↔
      ∃ content, setting.Holds content json ∧ settings = setting.set content start := by
  have stored {α : Type} {read : Except ConfigError α} {store : α → Settings} {holds : α → Prop}
      (reads : ∀ {a}, read = .ok a ↔ holds a) :
      (do return store (← read)) = Except.ok settings ↔ ∃ a, holds a ∧ settings = store a := by
    rw [Outcome.bind_eq_ok]
    simp [reads, pure, Except.pure, eq_comm]
  cases setting with
  | autoescape | debug => exact stored Json.asBool_eq_ok_iff
  | undefined => exact stored Json.asUndefined_eq_ok_iff
  | stringIfInvalid | logLevel => exact stored Json.asText_eq_ok_iff
  | builtins => exact stored Json.asTexts_eq_ok_iff
  | diagnosticWidth => exact stored Json.asSize_eq_ok_iff

end Setting

namespace Settings

theorem ext_get {settings others : Settings} (same : ∀ setting : Setting, setting.get settings = setting.get others) :
    settings = others := by
  obtain ⟨_, _, _, _, _, _, _⟩ := settings
  obtain ⟨_, _, _, _, _, _, _⟩ := others
  cases same .autoescape
  cases same .undefined
  cases same .stringIfInvalid
  cases same .builtins
  cases same .debug
  cases same .logLevel
  cases same .diagnosticWidth
  rfl

theorem setKey_of_other {key : String} (other : ∀ setting : Setting, setting.key ≠ key) (settings : Settings)
    (json : Json) : settings.setKey key json = .ok settings := by
  unfold setKey
  split
  next => exact absurd rfl (other .autoescape)
  next => exact absurd rfl (other .undefined)
  next => exact absurd rfl (other .stringIfInvalid)
  next => exact absurd rfl (other .builtins)
  next => exact absurd rfl (other .debug)
  next => exact absurd rfl (other .logLevel)
  next => exact absurd rfl (other .diagnosticWidth)
  next => rfl

section
variable {rest : Entries Json} {start settings : Settings} {json : Json}

theorem follows_cons_iff (setting : Setting) (fresh : setting.key ∉ rest.keys) :
    Follows ((setting.key, json) :: rest) start settings ↔
      ∃ content, setting.Holds content json ∧ Follows rest (setting.set content start) settings := by
  have absent : rest.get? setting.key = none := by
    rw [Entries.mem_keys_iff] at fresh
    simpa using fresh
  have found : Entries.get? setting.key ((setting.key, json) :: rest) = some json := if_pos rfl
  have later {other : Setting} (different : other ≠ setting) :
      Entries.get? other.key ((setting.key, json) :: rest) = rest.get? other.key :=
    if_neg fun same => different (Setting.key_inj same.symm)
  constructor
  · intro follow
    refine ⟨setting.get settings, ?_, fun other => ?_⟩
    · have here := follow setting
      rwa [found] at here
    · by_cases same : other = setting
      · subst same
        rw [absent, Setting.get_set]
        exact rfl
      · have here := follow other
        rwa [later same, ← Setting.get_set_of_ne same (setting.get settings) start] at here
  · rintro ⟨content, holds, follow⟩ other
    by_cases same : other = setting
    · subst same
      have here := follow other
      rw [absent, Setting.get_set] at here
      rw [found]
      exact here.symm ▸ holds
    · have here := follow other
      rwa [Setting.get_set_of_ne same, ← later same] at here

theorem follows_cons_of_other {key : String} (other : ∀ setting : Setting, setting.key ≠ key) :
    Follows ((key, json) :: rest) start settings ↔ Follows rest start settings := by
  have later (setting : Setting) : Entries.get? setting.key ((key, json) :: rest) = rest.get? setting.key :=
    if_neg fun same => other setting same.symm
  simp only [Follows, later]

/-- Reading the entries of a document one after the other, the settings come to follow it. -/
theorem foldlM_setKey_eq_ok_iff {entries : Entries Json} (distinct : entries.Distinct) :
    entries.foldlM (fun settings (key, json) => settings.setKey key json) start = .ok settings ↔
      Follows entries start settings := by
  induction entries generalizing start with
  | nil =>
    constructor
    · intro done
      cases done
      exact fun _ => rfl
    · exact fun follow => congrArg Except.ok (ext_get follow).symm
  | cons entry rest ih =>
    obtain ⟨key, json⟩ := entry
    obtain ⟨fresh, later⟩ := List.nodup_cons.mp distinct
    rw [List.foldlM_cons, Outcome.bind_eq_ok]
    by_cases known : ∃ setting : Setting, setting.key = key
    · obtain ⟨setting, rfl⟩ := known
      rw [follows_cons_iff setting fresh]
      constructor
      · rintro ⟨next, stored, done⟩
        obtain ⟨content, holds, rfl⟩ := setting.setKey_eq_ok_iff.mp stored
        exact ⟨content, holds, (ih later).mp done⟩
      · rintro ⟨content, holds, follow⟩
        exact ⟨_, setting.setKey_eq_ok_iff.mpr ⟨content, holds, rfl⟩, (ih later).mpr follow⟩
    · have other := not_exists.mp known
      rw [follows_cons_of_other other, ← ih later]
      simp [setKey_of_other other]

end

theorem Follows.congr {entries others : Entries Json} {start settings : Settings}
    (agree : ∀ setting : Setting, Option.Rel Json.Matches (entries.get? setting.key) (others.get? setting.key))
    (follow : Follows entries start settings) : Follows others start settings := by
  intro setting
  have here := follow setting
  have same := agree setting
  generalize entries.get? setting.key = found at here same
  generalize others.get? setting.key = other at same
  cases same with
  | none => exact here
  | some same => exact same.holds here

theorem ofText_eq_ok_iff {format : Format} {text : String} {settings : Settings} :
    ofText format text = .ok settings ↔
      ∃ entries, format.read? text = some (.object entries) ∧ Follows entries {} settings := by
  have document {read : Option Json} {error : ConfigError}
      (distinct : ∀ entries, read = some (.object entries) → Entries.Distinct entries) :
      (match read with
        | some document => ofDocument document
        | none => .error error) = .ok settings ↔
        ∃ entries, read = some (.object entries) ∧ Follows entries {} settings := by
    cases read with
    | none => simp
    | some json =>
      cases json with
      | object entries => simpa [ofDocument] using foldlM_setKey_eq_ok_iff (distinct entries rfl)
      | _ => simp [ofDocument]
  cases format with
  | json => exact document fun _ => Json.read?_distinct
  | toml => exact document fun _ => Toml.read?_distinct

/-- Documents of any formats that match under the keys of the settings give the same settings, or none. -/
theorem ofText_agree {format formatOther : Format} {text textOther : String} {entries others : Entries Json}
    (read : format.read? text = some (.object entries)) (readOther : formatOther.read? textOther = some (.object others))
    (agree : ∀ setting : Setting, Option.Rel Json.Matches (entries.get? setting.key) (others.get? setting.key)) :
    (∃ settings, ofText format text = .ok settings ∧ ofText formatOther textOther = .ok settings) ∨
      ∃ error errorOther, ofText format text = .error error ∧ ofText formatOther textOther = .error errorOther := by
  have reads (settings : Settings) : ofText format text = .ok settings ↔ Follows entries {} settings := by
    simp [ofText_eq_ok_iff, read]
  have readsOther (settings : Settings) : ofText formatOther textOther = .ok settings ↔ Follows others {} settings := by
    simp [ofText_eq_ok_iff, readOther]
  have back {found other : Option Json} (agree : Option.Rel Json.Matches found other) :
      Option.Rel Json.Matches other found := by
    cases agree with
    | none => exact .none
    | some same => exact .some same.symm
  cases done : ofText format text with
  | ok settings =>
    have follow := ((reads settings).mp done).congr agree
    exact Or.inl ⟨settings, rfl, (readsOther settings).mpr follow⟩
  | error error =>
    cases doneOther : ofText formatOther textOther with
    | ok settings =>
      have follow := ((readsOther settings).mp doneOther).congr fun setting => back (agree setting)
      cases done.symm.trans ((reads settings).mpr follow)
    | error errorOther => exact Or.inr ⟨error, errorOther, rfl, rfl⟩

/-- The environment is above what the settings are without it. -/
theorem get_override (setting : Setting) (settings : Settings) (env : String → Option String) :
    setting.get (settings.override (.ofVariables env)) = (setting.ofVariables? env).getD (setting.get settings) := by
  have switch (name : String) (b : Bool) : (env name).elim b readSwitch =
      ((env name).map fun text => decide (Text.lower text ∈ ["true", "1", "yes"])).getD b := by
    cases env name with
    | none => rfl
    | some text => exact List.contains_eq_mem (Text.lower text) ["true", "1", "yes"]
  cases setting with
  | undefined | builtins | diagnosticWidth | logLevel | stringIfInvalid => rfl
  | autoescape | debug => exact switch _ _

theorem override_override (settings : Settings) (env : String → Option String) :
    (settings.override (.ofVariables env)).override (.ofVariables env) = settings.override (.ofVariables env) := by
  refine ext_get fun setting => ?_
  simp only [get_override]
  cases setting.ofVariables? env <;> rfl

theorem ofTomlWith_layered (text : String) (env : String → Option String) :
    (∀ error, ofTomlWith text (.ofVariables env) = .error error ↔ ofToml text = .error error) ∧
    ∀ {settings : Settings}, ofToml text = .ok settings → ∃ layered, ofTomlWith text (.ofVariables env) = .ok layered ∧
      ∀ setting : Setting, setting.get layered = (setting.ofVariables? env).getD (setting.get settings) := by
  rw [ofTomlWith]
  cases ofToml text with
  | ok settings =>
    refine ⟨fun _ => ⟨nofun, nofun⟩, fun {_} same => ?_⟩
    cases same
    exact ⟨_, rfl, fun setting => get_override setting settings env⟩
  | error error => exact ⟨fun _ => Iff.rfl, nofun⟩

/-- Settings are what a document of either format holds under their keys, and as by default where it holds nothing, so
documents that match there give the same, whatever else is in them. What the variables of the environment say is above
that, and saying it again changes nothing. -/
theorem ofText_layers :
    (∀ {format : Format} {text : String} {settings : Settings}, ofText format text = .ok settings ↔
      ∃ entries, format.read? text = some (.object entries) ∧ Follows entries {} settings) ∧
    (∀ {format formatOther : Format} {text textOther : String} {entries others : Entries Json},
      format.read? text = some (.object entries) → formatOther.read? textOther = some (.object others) →
      (∀ setting : Setting, Option.Rel Json.Matches (entries.get? setting.key) (others.get? setting.key)) →
      (∃ settings, ofText format text = .ok settings ∧ ofText formatOther textOther = .ok settings) ∨
        ∃ error errorOther, ofText format text = .error error ∧ ofText formatOther textOther = .error errorOther) ∧
    (∀ (text : String) (env : String → Option String),
      (∀ error, ofTomlWith text (.ofVariables env) = .error error ↔ ofToml text = .error error) ∧
      ∀ {settings}, ofToml text = .ok settings → ∃ layered, ofTomlWith text (.ofVariables env) = .ok layered ∧
        ∀ setting : Setting, setting.get layered = (setting.ofVariables? env).getD (setting.get settings)) ∧
    ∀ (settings : Settings) (env : String → Option String),
      (settings.override (.ofVariables env)).override (.ofVariables env) = settings.override (.ofVariables env) :=
  ⟨ofText_eq_ok_iff, ofText_agree, ofTomlWith_layered, override_override⟩

/-- A setting from documents of both formats, of which one holds another key, and one from the environment. -/
theorem ofText_layers_mixed :
    let toml := "debug = true"
    let json := "\x7b\"y\": [null], \"debug\": true\x7d"
    let entries : Entries Json := [("debug", .bool true)]
    let others : Entries Json := [("y", .array [.null]), ("debug", .bool true)]
    let env (name : String) := if name = "RUSTY_TEMPLATES_AUTOESCAPE" then some "No" else none
    (Format.toml.read? toml = some (.object entries) ∧ Format.json.read? json = some (.object others) ∧
      ∀ setting : Setting, Option.Rel Json.Matches (entries.get? setting.key) (others.get? setting.key)) ∧
    ofText .toml toml = .ok { debug := true } ∧ ofText .json json = .ok { debug := true } ∧
      ofTomlWith toml (.ofVariables env) = .ok { debug := true, autoescape := false } := by
  have read : Toml.read? "debug = true" = some (.object [("debug", .bool true)]) := by cbv
  have readOther : Json.read? "\x7b\"y\": [null], \"debug\": true\x7d" =
      some (.object [("y", .array [.null]), ("debug", .bool true)]) := by cbv
  intro toml json entries others env
  obtain ⟨follows, agree, layers, -⟩ := ofText_layers
  have matching (setting : Setting) : Option.Rel Json.Matches (entries.get? setting.key) (others.get? setting.key) := by
    cases setting with
    | debug => exact .some .bool
    | _ => exact .none
  have done : ofText .toml toml = .ok { debug := true } :=
    follows.mpr ⟨entries, read, fun setting => by cases setting <;> rfl⟩
  refine ⟨⟨read, readOther, matching⟩, done, ?_, ?_⟩
  · rcases @agree .toml .json toml json entries others read readOther matching with ⟨_, first, other⟩ | ⟨_, _, first, -⟩
    · cases done.symm.trans first
      exact other
    · cases done.symm.trans first
  · obtain ⟨layered, same, gets⟩ := (layers toml env).2 done
    rw [same]
    refine congrArg Except.ok (ext_get fun setting => (gets setting).trans ?_)
    cases setting <;> decide

end Settings

end Stencil
