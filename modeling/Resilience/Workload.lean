import Resilience.Json.Record
import Resilience.Text.Split
/-! # Workloads

What is disrupted: deployments and stateful sets, how they are named on the command line and in
reports, the labels that select their pods, and the verdict on a scenario.
-/
namespace Resilience

inductive WorkloadKind where
  | deployment
  | statefulSet
deriving DecidableEq, Repr, Inhabited

namespace WorkloadKind

def apiName : WorkloadKind → String
  | .deployment => "Deployment"
  | .statefulSet => "StatefulSet"

def name : WorkloadKind → String
  | .deployment => "deployment"
  | .statefulSet => "statefulset"

def ofName? : String → Option WorkloadKind
  | "deployment" => some .deployment
  | "statefulset" => some .statefulSet
  | _ => none

/-- The kind that a user may mean: short names and plurals too, in any case of ASCII letters. -/
def parse (s : String) : Except String WorkloadKind :=
  match s.map Char.toLower with
  | "deployment" | "deploy" | "deployments" => .ok .deployment
  | "statefulset" | "sts" | "statefulsets" => .ok .statefulSet
  | other =>
    .error s!"unknown workload kind '{other}' (expected deployment or statefulset)"

theorem ofName?_name (k : WorkloadKind) : ofName? k.name = some k := by cases k <;> rfl

end WorkloadKind

structure WorkloadRef where
  namespaceName : String
  name : String
  kind : WorkloadKind
deriving DecidableEq, Repr, Inhabited

namespace WorkloadRef

/-- The form in reports: `kind namespace/name`. -/
def text (w : WorkloadRef) : String :=
  s!"{w.kind.name} {w.namespaceName}/{w.name}"

/-- A reference of the form `namespace/kind/name`, namespace and name not empty. -/
def parse (s : String) : Except String WorkloadRef :=
  match Text.split '/' s with
  | [ns, kind, name] =>
    if ns ≠ "" ∧ name ≠ "" then do
      let k ← WorkloadKind.parse kind
      pure ⟨ns, name, k⟩
    else .error s!"invalid workload reference '{s}' (expected namespace/kind/name)"
  | _ => .error s!"invalid workload reference '{s}' (expected namespace/kind/name)"

def toJson (w : WorkloadRef) : Json :=
  .object [("namespace", .string w.namespaceName), ("name", .string w.name),
    ("kind", .string w.kind.name)]

/-- A workload from its record; the kind by its exact name. -/
def ofJson? (j : Json) : Option WorkloadRef := do
  match ← j.fields? ["namespace", "name", "kind"] with
  | [ns, name, kind] =>
    pure ⟨← Json.requiredText? ns, ← Json.requiredText? name,
      ← WorkloadKind.ofName? (← (← kind).choice?)⟩
  | _ => none

end WorkloadRef

structure PodLabel where
  domain : String
  name : String
  value : String
deriving DecidableEq, Repr, Inhabited

namespace PodLabel

/-- The key of the label: its name behind its domain, if it has one. -/
def key (l : PodLabel) : String :=
  if l.domain = "" then l.name else s!"{l.domain}/{l.name}"

/-- The selector of the label: `key=value`. -/
def selector (l : PodLabel) : String := s!"{l.key}={l.value}"

def toJson (l : PodLabel) : Json :=
  .object [("prefix", .string l.domain), ("name", .string l.name), ("value", .string l.value)]

def ofJson? (j : Json) : Option PodLabel := do
  match ← j.fields? ["prefix", "name", "value"] with
  | [domain, name, value] =>
    pure ⟨← Json.defaultText? "" domain, ← Json.requiredText? name, ← Json.requiredText? value⟩
  | _ => none

/-- The first of the targets that the labels of a pod carry with its value. -/
def firstCarried? (labels : Dict String String) (targets : List PodLabel) : Option PodLabel :=
  targets.find? fun t => Dict.find? labels t.key = some t.value

def query (labels : Dict String String) : String :=
  ",".intercalate (labels.map fun p => s!"{p.1}={p.2}")

end PodLabel

inductive Verdict where
  | pass
  | fail
  | error
deriving DecidableEq, Repr, Inhabited

namespace Verdict

def name : Verdict → String
  | .pass => "pass"
  | .fail => "fail"
  | .error => "error"

def ofName? : String → Option Verdict
  | "pass" => some .pass
  | "fail" => some .fail
  | "error" => some .error
  | _ => none

def exitStatus (verdicts : List Verdict) : Nat :=
  if verdicts.all (· == .pass) then 0 else 1

end Verdict
end Resilience
