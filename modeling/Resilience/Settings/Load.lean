import Resilience.Catalog
import Resilience.Files
import Resilience.Settings.Environment
import Resilience.Settings.Shape
import Resilience.Toml.Document
/-! # Loading settings

Settings start from a file or from the built-in values, then variables of the environment take
effect one by one, and the result is checked.
-/
namespace Resilience

inductive DocumentError where
  | syntaxError
  | shape (e : ShapeError)

inductive SettingsError where
  | notFound (path : String)
  | unreadable (path : String) (reason : FileError)
  | malformed (path : Option String) (reason : DocumentError)
  | environment (errors : List VariableError)
  | invalid (problems : List String)

namespace SettingsError

def code : SettingsError → ErrorCode
  | .notFound _ => .configNotFound
  | .unreadable _ _ => .configReadError
  | .malformed _ _ => .configParseError
  | .environment _ => .configEnvError
  | .invalid _ => .configValidationError

/-- The wording of a failure. Where a document is malformed, only what is wrong with its shape has
a wording of its own. -/
def message : SettingsError → String
  | .notFound path => s!"configuration file not found: {path}"
  | .unreadable path reason => s!"failed to read {path}: {reason.message}"
  | .malformed path reason =>
    let what := match reason with
      | .syntaxError => "TOML parse error"
      | .shape e => e.message
    let place := path.getD ""
    s!"failed to parse {place}: {what}"
  | .environment errors =>
    "invalid environment overrides: " ++ "; ".intercalate (errors.map VariableError.message)
  | .invalid problems => "invalid configuration: " ++ "; ".intercalate problems

end SettingsError

namespace Settings

def defaultFile : String := "kcert.toml"

def builtIn : Settings := noteDefaults {}

def parseDocument (text : String) : Except DocumentError (Dict String Toml) :=
  match Toml.parse? text with
  | none => .error .syntaxError
  | some entries => .ok entries

def ofText (text : String) : Except DocumentError Settings := do
  let entries ← parseDocument text
  match ofDocument entries with
  | .ok s => pure s
  | .error e => .error (.shape e)

/-- The document has an entry for the setting. A section given as an array names no settings. -/
def hasEntry (entries : Dict String Toml) (k : Setting) : Bool :=
  match k.place with
  | (none, name) => Dict.contains entries name
  | (some table, name) =>
    match (Dict.find? entries table).bind Toml.entries? with
    | some es => Dict.contains es name
    | none => false

/-- Notes the file as the origin of every setting that its document has an entry for. A document
with an integer beyond the signed ones of 64 bits is attributed nothing. -/
def noteFile (path : String) (entries : Dict String Toml) (s : Settings) : Settings :=
  if Toml.anyWideEntry entries then s
  else Setting.all.foldl
    (fun s k => if hasEntry entries k then s.note k (.file path) else s) s

def ofFile (files : Files) (path : String) : Except SettingsError Settings :=
  match files.readText path with
  | .error e => .error (.unreadable path e)
  | .ok text =>
    match parseDocument text with
    | .error e => .error (.malformed path e)
    | .ok entries =>
      match ofDocument entries with
      | .error e => .error (.malformed path (.shape e))
      | .ok s => .ok (s.noteFile path entries)

def setDuration (s : Settings) (d : Duration) : Setting → Settings
  | .readyTimeout => { s with disruption.readyTimeout := d }
  | .perPodTimeout => { s with disruption.perPodTimeout := d }
  | .drainInterval => { s with disruption.pollInterval := d }
  | .waitTimeout => { s with faultInjection.waitTimeout := d }
  | .chaosInterval => { s with faultInjection.pollInterval := d }
  | .operatorTimeout => { s with operator.timeout := d }
  | .operatorInterval => { s with operator.pollInterval := d }
  | .logLevel | .templatesDir => s

/-- A duration takes the place of settings, unless it is built in. -/
def overrideDurations (s : Settings) (d : Sourced Duration) (ks : List Setting) : Settings :=
  if d.isDefault then s
  else ks.foldl (fun s k => (s.setDuration d.value k).note k d.source) s

def applyDuration (name : String) (ks : List Setting) (p : Settings × Environment) :
    Settings × Environment :=
  let (d, env) := p.2.duration name .zero
  (p.1.overrideDurations d ks, env)

def applyLogLevel (p : Settings × Environment) : Settings × Environment :=
  let (level, env) := p.2.logLevel "LOG_LEVEL" p.1.logLevel
  if level.isDefault then (p.1, env)
  else ({ p.1 with logLevel := level.value }.note .logLevel level.source, env)

/-- Reads the variable for the directory of templates; an empty one counts as not set. -/
def applyTemplatesDir (p : Settings × Environment) : Settings × Environment :=
  match (p.2.optionalString "TEMPLATES_DIR").value with
  | none => p
  | some dir =>
    ({ p.1 with faultInjection.templatesDir := some dir }.note .templatesDir .environment, p.2)

/-- The variables of the environment, one after another, and their refusals. One variable sets
every interval. -/
def applyVariables (s : Settings) (vars : Dict String String) :
    Settings × List VariableError :=
  let p := (s, { vars := vars : Environment })
    |> applyDuration "READY_TIMEOUT" [.readyTimeout]
    |> applyDuration "PER_POD_TIMEOUT" [.perPodTimeout]
    |> applyDuration "CHAOS_TIMEOUT" [.waitTimeout]
    |> applyDuration "OPERATOR_TIMEOUT" [.operatorTimeout]
    |> applyDuration "POLL_INTERVAL" [.drainInterval, .chaosInterval, .operatorInterval]
    |> applyLogLevel
    |> applyTemplatesDir
  (p.1, p.2.errors)

def validate (s : Settings) : Except SettingsError Unit :=
  if s.problems = [] then .ok () else .error (.invalid s.problems)

/-- The settings that a run starts from: of the named file, which has to exist, or of the default
file, if it exists. -/
def start (files : Files) : Option String → Except SettingsError Settings
  | some path => if files.has path then ofFile files path else .error (.notFound path)
  | none => if files.has defaultFile then ofFile files defaultFile else .ok builtIn

def load (files : Files) (vars : Dict String String) (path : Option String) :
    Except SettingsError Settings := do
  let s ← start files path
  match s.applyVariables vars with
  | (s, []) => do
    s.validate
    pure s
  | (_, errors) => .error (.environment errors)

end Settings
end Resilience
