import Stencil.Json.Reader
import Stencil.Settings
import Stencil.Text.Lowercase
import Stencil.Toml.Reader

/-! Settings read from documents and from the environment.

Each setting is read from its own key; other keys are left alone, and a key that is missing leaves its
setting as it is. The first key of the document that does not fit is the error. -/

set_option autoImplicit false

namespace Stencil

inductive ConfigError where
  | toml
  | json
  | notATable
  | wrongType (found : Json) (expected : String)
  | wrongValue (found : Json) (expected : String)
  | unknownVariant (name : String)

def Json.described : Json → String
  | .null => "null"
  | .bool b => "boolean \x60" ++ (if b then "true" else "false") ++ "\x60"
  | .number (.integer n) => "integer \x60" ++ toString n ++ "\x60"
  | .number (.float x) => "floating point \x60" ++ Decimal.terseText x ++ "\x60"
  | .string s => "string " ++ Text.quoteDouble s
  | .array _ => "sequence"
  | .object _ => "map"

def ConfigError.message : ConfigError → String
  | .toml => "Failed to parse TOML"
  | .json => "Failed to parse JSON"
  | .notATable => "Invalid settings: settings must be a table of key/value pairs"
  | .wrongType found expected => "Invalid settings: invalid type: " ++ found.described ++ ", expected " ++ expected
  | .wrongValue found expected => "Invalid settings: invalid value: " ++ found.described ++ ", expected " ++ expected
  | .unknownVariant name =>
    "Invalid settings: unknown variant \x60" ++ name ++ "\x60, expected \x60strict\x60 or \x60lenient\x60"

namespace Json

def asBool : Json → Except ConfigError Bool
  | .bool b => .ok b
  | found => .error (.wrongType found "a boolean")

def asText : Json → Except ConfigError String
  | .string s => .ok s
  | found => .error (.wrongType found "a string")

def asTexts : Json → Except ConfigError (List String)
  | .array items => items.mapM asText
  | found => .error (.wrongType found "a sequence")

/-- A natural number. Only its sign is tested, as the readers of documents give no integer beyond 64 bits. -/
def asSize : Json → Except ConfigError Nat
  | .number (.integer n) =>
    if n < 0 then .error (.wrongValue (.number (.integer n)) "usize") else .ok n.toNat
  | found => .error (.wrongType found "usize")

end Json

def Undefined.ofName (name : String) : Except ConfigError Undefined :=
  if name = "strict" then .ok .strict
  else if name = "lenient" then .ok .lenient
  else .error (.unknownVariant name)

/-- A behaviour is a name, or a table with the name as its only key and nothing under it. -/
def Json.asUndefined : Json → Except ConfigError Undefined
  | .string name => Undefined.ofName name
  | .object [(name, content)] => do
    let undefined ← Undefined.ofName name
    match content with
    | .null => return undefined
    | found => throw (.wrongType found "unit")
  | .object entries => .error (.wrongValue (.object entries) "map with a single key")
  | found => .error (.wrongType found "string or map")

namespace Settings

def setKey (settings : Settings) (key : String) (json : Json) : Except ConfigError Settings :=
  match key with
  | "autoescape" => return { settings with autoescape := ← json.asBool }
  | "undefined" => return { settings with undefined := ← json.asUndefined }
  | "string_if_invalid" => return { settings with stringIfInvalid := ← json.asText }
  | "builtins" => return { settings with builtins := ← json.asTexts }
  | "debug" => return { settings with debug := ← json.asBool }
  | "log_level" => return { settings with logLevel := ← json.asText }
  | "diagnostic_width" => return { settings with diagnosticWidth := ← json.asSize }
  | _ => .ok settings

def ofDocument : Json → Except ConfigError Settings
  | .object entries => entries.foldlM (fun settings (key, json) => settings.setKey key json) {}
  | _ => .error .notATable

def ofJson (text : String) : Except ConfigError Settings :=
  match Json.read? text with
  | some document => ofDocument document
  | none => .error .json

def ofToml (text : String) : Except ConfigError Settings :=
  match Toml.read? text with
  | some document => ofDocument document
  | none => .error .toml

end Settings

/-- What the environment says about settings, where it says anything. -/
structure Environment where
  autoescape : Option String := none
  debug : Option String := none
  logLevel : Option String := none
  stringIfInvalid : Option String := none
  deriving DecidableEq, Repr

/-- What the variables of an environment say. -/
def Environment.ofVariables (env : String → Option String) : Environment where
  autoescape := env "RUSTY_TEMPLATES_AUTOESCAPE"
  debug := env "RUSTY_TEMPLATES_DEBUG"
  logLevel := env "RUSTY_TEMPLATES_LOG_LEVEL"
  stringIfInvalid := env "RUSTY_TEMPLATES_STRING_IF_INVALID"

/-- Whether a text switches something on. -/
def readSwitch (text : String) : Bool := ["true", "1", "yes"].contains (Text.lower text)

/-- The settings with what the environment says in place of theirs. -/
def Settings.override (settings : Settings) (environment : Environment) : Settings :=
  { settings with
    autoescape := environment.autoescape.elim settings.autoescape readSwitch
    debug := environment.debug.elim settings.debug readSwitch
    logLevel := environment.logLevel.getD settings.logLevel
    stringIfInvalid := environment.stringIfInvalid.getD settings.stringIfInvalid }

/-- The settings of a TOML text, with what the environment says in place of theirs. -/
def Settings.ofTomlWith (text : String) (environment : Environment) : Except ConfigError Settings :=
  (Settings.ofToml text).map (·.override environment)

end Stencil
