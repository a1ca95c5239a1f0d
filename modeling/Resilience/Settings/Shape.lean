import Resilience.Decimal
import Resilience.Settings.Basic
import Resilience.Text.Escaped
import Resilience.Toml.Basic
/-! # The shape of settings in a file

Settings are read from the table of a TOML document. A record may also be given as the array of
its fields in order. Of several complaints the first counts, entries being taken in ascending
order of their keys and missing fields last.
-/
namespace Resilience

inductive ShapeError where
  | unknownField (name : String) (known : List String)
  | missingField (name : String)
  | unknownChoice (name : String) (known : List String)
  | wrongType (found : Toml) (expected : String)
  /-- An array ends before the fields of a record do. -/
  | tooShort (length : Nat) (expected : String)
  | notDuration
  | duration (reason : Duration.ReadError)
  /-- A choice in a form that names none. -/
  | noChoice (reason : String)

namespace ShapeError

def alternatives : List String → String
  | [a] => s!"`{a}`"
  | [a, b] => s!"`{a}` or `{b}`"
  | names => "one of " ++ ", ".intercalate (names.map fun n => s!"`{n}`")

def floatText : Toml.Float → String
  | .nan => "NaN"
  | .infinite negative => if negative then "-inf" else "inf"
  | .finite x =>
    (if x.negative then "-" else "") ++ String.ofList (Decimal.positional (Decimal.shortest x))

def foundText : Toml → String
  | .string s => s!"string {Text.quoted s}"
  | .int n =>
    let wide := n < -(twoTo 63 : Int) || (twoTo 64 : Int) ≤ n
    s!"integer `{n}`" ++ (if wide then " as i128" else "")
  | .float x => s!"floating point `{floatText x}`"
  | .bool b => s!"boolean `{b}`"
  | .datetime | .table _ => "map"
  | .array _ => "sequence"

def message : ShapeError → String
  | .unknownField name known => s!"unknown field `{name}`, expected {alternatives known}"
  | .missingField name => s!"missing field `{name}`"
  | .unknownChoice name known => s!"unknown variant `{name}`, expected {alternatives known}"
  | .wrongType found expected => s!"invalid type: {foundText found}, expected {expected}"
  | .tooShort length expected => s!"invalid length {length}, expected {expected}"
  | .notDuration => "data did not match any variant of untagged enum Raw"
  | .duration reason => reason.message
  | .noChoice reason => reason

end ShapeError

namespace Settings

abbrev Shaped := Except ShapeError

def datetimeKey : String := "$__toml_private_datetime"

def recordEntries (name : String) (fields : List String) : Toml → Shaped (Dict String Toml)
  | .table es => .ok es
  | .datetime => .ok [(datetimeKey, .string "")]
  | .array items => .ok (fields.zip items)
  | other => .error (.wrongType other s!"struct {name}")

def text : Toml → Shaped String
  | .string s => .ok s
  | other => .error (.wrongType other "a string")

def bool : Toml → Shaped Bool
  | .bool b => .ok b
  | other => .error (.wrongType other "a boolean")

def path : Toml → Shaped String
  | .string s => .ok s
  | other => .error (.wrongType other "path string")

def duration : Toml → Shaped Duration
  | .int n =>
    if n < -(twoTo 63 : Int) || (twoTo 64 : Int) ≤ n then .error (.wrongType (.int n) "any value")
    else if n < 0 then .error .notDuration
    else .ok (.ofSeconds n.toNat)
  | .string s =>
    match Duration.read s with
    | .ok d => .ok d
    | .error e => .error (.duration e)
  | _ => .error .notDuration

def items : Toml → Shaped (List Toml)
  | .array ts => .ok ts
  | other => .error (.wrongType other "a sequence")

def disruptionFields : List String :=
  ["ready_timeout", "per_pod_timeout", "poll_interval", "skip_daemonset_pods"]

def setDisruption (d : DisruptionSettings) : String × Toml → Shaped DisruptionSettings
  | ("ready_timeout", v) => (duration v).map fun t => { d with readyTimeout := t }
  | ("per_pod_timeout", v) => (duration v).map fun t => { d with perPodTimeout := t }
  | ("poll_interval", v) => (duration v).map fun t => { d with pollInterval := t }
  | ("skip_daemonset_pods", v) => (bool v).map fun b => { d with skipNodeBound := b }
  | (name, _) => .error (.unknownField name disruptionFields)

def readDisruption (v : Toml) : Shaped DisruptionSettings := do
  (← recordEntries "DisruptionConfig" disruptionFields v).foldlM setDisruption {}

def faultInjectionFields : List String :=
  ["wait_timeout", "poll_interval", "experiment", "templates_dir"]

def setFaultInjection (f : FaultInjectionSettings) :
    String × Toml → Shaped FaultInjectionSettings
  | ("wait_timeout", v) => (duration v).map fun t => { f with waitTimeout := t }
  | ("poll_interval", v) => (duration v).map fun t => { f with pollInterval := t }
  | ("experiment", v) => (text v).map fun s => { f with experiment := s }
  | ("templates_dir", v) => (path v).map fun s => { f with templatesDir := some s }
  | (name, _) => .error (.unknownField name faultInjectionFields)

def readFaultInjection (v : Toml) : Shaped FaultInjectionSettings := do
  (← recordEntries "FaultInjectionConfig" faultInjectionFields v).foldlM setFaultInjection {}

def operatorFields : List String := ["timeout", "poll_interval"]

def setOperator (o : OperatorSettings) : String × Toml → Shaped OperatorSettings
  | ("timeout", v) => (duration v).map fun t => { o with timeout := t }
  | ("poll_interval", v) => (duration v).map fun t => { o with pollInterval := t }
  | (name, _) => .error (.unknownField name operatorFields)

def readOperator (v : Toml) : Shaped OperatorSettings := do
  (← recordEntries "OperatorConfig" operatorFields v).foldlM setOperator {}

def kindOfName (name : String) : Shaped WorkloadKind :=
  match WorkloadKind.ofName? name with
  | some k => .ok k
  | none => .error (.unknownChoice name ["deployment", "statefulset"])

def kind : Toml → Shaped WorkloadKind
  | .string s => kindOfName s
  | .table [] => .error (.noChoice "wanted exactly 1 element, found 0 elements")
  | .table [(name, v)] => do
    let k ← kindOfName name
    match v with
    | .table [] | .array [] => .ok k
    | .table _ => .error (.noChoice "expected empty table")
    | .array _ => .error (.noChoice "expected empty array")
    | .string _ => .error (.noChoice "expected table, found string")
    | .int _ => .error (.noChoice "expected table, found integer")
    | .float _ => .error (.noChoice "expected table, found float")
    | .bool _ => .error (.noChoice "expected table, found boolean")
    | .datetime => .error (.noChoice "expected table, found datetime")
  | .table _ => .error (.noChoice "wanted exactly 1 element, more than 1 element")
  | _ => .error (.noChoice "wanted string or table")

/-- The value of a field that has to be given. An array that is too short lacks it by its
length. -/
def required {α : Type} (name record : String) (fields : List String) (v : Toml)
    (found : Option α) : Shaped α :=
  match found with
  | some a => .ok a
  | none =>
    match v with
    | .array ts => .error (.tooShort ts.length s!"struct {record} with {fields.length} elements")
    | _ => .error (.missingField name)

def workloadFields : List String := ["namespace", "name", "kind"]

structure PartialWorkload where
  namespaceName : Option String := none
  name : Option String := none
  kind : Option WorkloadKind := none

/-- One field of a workload set; fields that it does not have are passed over. -/
def setWorkload (w : PartialWorkload) : String × Toml → Shaped PartialWorkload
  | ("namespace", v) => (text v).map fun s => { w with namespaceName := some s }
  | ("name", v) => (text v).map fun s => { w with name := some s }
  | ("kind", v) => (kind v).map fun k => { w with kind := some k }
  | _ => .ok w

def readWorkload (v : Toml) : Shaped WorkloadRef := do
  let w ← (← recordEntries "WorkloadRef" workloadFields v).foldlM setWorkload {}
  let ns ← required "namespace" "WorkloadRef" workloadFields v w.namespaceName
  let name ← required "name" "WorkloadRef" workloadFields v w.name
  let kind ← required "kind" "WorkloadRef" workloadFields v w.kind
  pure ⟨ns, name, kind⟩

def labelFields : List String := ["prefix", "name", "value"]

structure PartialLabel where
  domain : String := ""
  name : Option String := none
  value : Option String := none

def setLabel (l : PartialLabel) : String × Toml → Shaped PartialLabel
  | ("prefix", v) => (text v).map fun s => { l with domain := s }
  | ("name", v) => (text v).map fun s => { l with name := some s }
  | ("value", v) => (text v).map fun s => { l with value := some s }
  | _ => .ok l

def readLabel (v : Toml) : Shaped PodLabel := do
  let l ← (← recordEntries "TargetPodLabel" labelFields v).foldlM setLabel {}
  let name ← required "name" "TargetPodLabel" labelFields v l.name
  let value ← required "value" "TargetPodLabel" labelFields v l.value
  pure ⟨l.domain, name, value⟩

def documentFields : List String :=
  ["log_level", "disruption", "fault_injection", "operator", "targets", "target_pod_labels"]

def setEntry (s : Settings) : String × Toml → Shaped Settings
  | ("log_level", v) => (text v).map fun t => { s with logLevel := t }
  | ("disruption", v) => (readDisruption v).map fun d => { s with disruption := d }
  | ("fault_injection", v) => (readFaultInjection v).map fun f => { s with faultInjection := f }
  | ("operator", v) => (readOperator v).map fun o => { s with operator := o }
  | ("targets", v) => do
    let ws ← (← items v).mapM readWorkload
    pure { s with targets := ws }
  | ("target_pod_labels", v) => do
    let ls ← (← items v).mapM readLabel
    pure { s with targetLabels := ls }
  | (name, _) => .error (.unknownField name documentFields)

def ofDocument (entries : Dict String Toml) : Shaped Settings :=
  (entries.foldlM setEntry {}).map noteDefaults

end Settings
end Resilience
