import Resilience.Cluster.Basic
import Resilience.Scenario.Error
/-! # The state of a fault injection

What the engine and its result say in their objects. A field that is absent or null is missing,
which is normal for an engine that has not begun; a field of another type is an error.
-/
namespace Resilience

def objectLabel (kind : String) (object : Json) : String :=
  let name := ((object.at? ["metadata", "name"]).bind Json.string?).getD "<unnamed>"
  s!"{kind} {name}"

namespace ObjectError

def optionalText (object : Json) (label : String) (path : List String) :
    Except ObjectError (Option String) :=
  match object.at? path with
  | none | some .null => .ok none
  | some (.string s) => .ok (some s)
  | some _ => .error (.wrongType label (".".intercalate path) "string")

def requiredText (object : Json) (label : String) (path : List String) :
    Except ObjectError String := do
  match ← optionalText object label path with
  | some s => pure s
  | none => .error (.missingField label (".".intercalate path))

end ObjectError

structure ExperimentStatus where
  name : String
  status : Option String
  verdict : Option String
deriving DecidableEq, Repr

namespace ExperimentStatus

def toJson (e : ExperimentStatus) : Json :=
  .object [("name", .string e.name), ("status", Json.ofOption .string e.status),
    ("verdict", Json.ofOption .string e.verdict)]

def ofJson (label : String) (item : Json) : Except ObjectError ExperimentStatus := do
  let name ← ObjectError.requiredText item label ["name"]
  let status ← ObjectError.optionalText item label ["status"]
  let verdict ← ObjectError.optionalText item label ["verdict"]
  pure ⟨name, status, verdict⟩

end ExperimentStatus

structure EngineStatus where
  status : Option String := none
  experiments : List ExperimentStatus := []
deriving DecidableEq, Repr

namespace EngineStatus

def toJson (e : EngineStatus) : Json :=
  .object [("engine_status", Json.ofOption .string e.status),
    ("experiments", .array (e.experiments.map ExperimentStatus.toJson))]

def ofObject (object : Json) : Except ObjectError EngineStatus := do
  let label := objectLabel "ChaosEngine" object
  let status ← ObjectError.optionalText object label ["status", "engineStatus"]
  match object.at? ["status", "experiments"] with
  | none | some .null => pure ⟨status, []⟩
  | some (.array items) => pure ⟨status, ← items.mapM (ExperimentStatus.ofJson label)⟩
  | some _ => .error (.wrongType label "status.experiments" "list")

def isCompleted (e : EngineStatus) (experiment : String) : Bool :=
  e.experiments.any (·.name == experiment) && e.status == some "completed"

end EngineStatus

structure ResultVerdict where
  name : String
  experiment : String
  verdict : String
  failStep : Option String
deriving DecidableEq, Repr

namespace ResultVerdict

def toJson (r : ResultVerdict) : Json :=
  .object [("name", .string r.name), ("experiment", .string r.experiment),
    ("verdict", .string r.verdict), ("fail_step", Json.ofOption .string r.failStep)]

def ofObject (object : Json) : Except ObjectError ResultVerdict := do
  let label := objectLabel "ChaosResult" object
  let experiment ← ObjectError.requiredText object label ["spec", "experiment"]
  let verdict ← ObjectError.requiredText object label ["status", "experimentStatus", "verdict"]
  let failStep ← ObjectError.optionalText object label ["status", "experimentStatus", "failStep"]
  pure ⟨objectName object, experiment, verdict, failStep⟩

def hasPassed (r : ResultVerdict) (experiment : String) : Bool :=
  r.experiment == experiment && r.verdict == "Pass"

def failureReason (r : ResultVerdict) (experiment : String) : String :=
  if r.experiment ≠ experiment then
    s!"result {r.name} is for experiment {r.experiment}, expected {experiment}"
  else match r.failStep with
    | some step => if step = "" then s!"verdict {r.verdict}" else step
    | none => s!"verdict {r.verdict}"

end ResultVerdict
end Resilience
