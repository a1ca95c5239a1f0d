import Resilience.Cluster.Basic
import Resilience.Duration.Basic
/-! # What can go wrong in a scenario

Most failures end their scenario with a verdict. Only a node that could not be made schedulable
again ends the whole run.
-/
namespace Resilience

inductive SetupStage where
  | template
  | discovery
  | create
deriving DecidableEq, Repr

def SetupStage.name : SetupStage → String
  | .template => "template"
  | .discovery => "discovery"
  | .create => "create"

inductive ObjectError where
  | missingField (object field : String)
  | wrongType (object field expected : String)
  /-- A document of a template is no YAML. -/
  | document (source : String) (index : Nat)
deriving DecidableEq, Repr

namespace ObjectError

def malformedDocument : String := "malformed YAML"

def message : ObjectError → String
  | .missingField object field => s!"{object}: missing field `{field}`"
  | .wrongType object field expected => s!"{object}: field `{field}` is not a {expected}"
  | .document source index => s!"{source} document {index}: {malformedDocument}"

end ObjectError

structure CleanupWarning where
  kind : String
  name : String
  error : String
deriving DecidableEq, Repr

namespace CleanupWarning

def text (w : CleanupWarning) : String := s!"{w.kind} {w.name}: {w.error}"

def toJson (w : CleanupWarning) : Json :=
  .object [("kind", .string w.kind), ("name", .string w.name), ("error", .string w.error)]

end CleanupWarning

inductive ScenarioError where
  | setup (stage : SetupStage) (subject reason : String)
  | timeout (what : String) (limit : Duration) (lastError : Option String)
  | uncordonFailed (node : String) (source : ClusterError)
  | cleanup (warnings : List CleanupWarning)
  | multipleInstances (kind : String) (count : Nat)
  | read (source : ClusterError)
  | object (source : ObjectError)
  | noInstance (kind namespaceName : String)
deriving DecidableEq, Repr

namespace ScenarioError

def message : ScenarioError → String
  | .setup stage subject reason => s!"{stage.name} failed for {subject}: {reason}"
  | .timeout what limit _ => s!"{what} did not converge within {limit.seconds}s"
  | .uncordonFailed node source =>
    s!"failed to uncordon node {node}: {source.message}; node left unschedulable"
  | .cleanup warnings => s!"{warnings.length} cleanup step(s) failed"
  | .multipleInstances kind count => s!"found {count} {kind} instances, expected exactly one"
  | .read source => s!"cluster read failed: {source.message}"
  | .object source => s!"status parse error: {source.message}"
  | .noInstance kind ns => s!"no {kind} instance found in namespace {ns}"

def endsRun : ScenarioError → Bool
  | .uncordonFailed _ _ => true
  | _ => false

def code : ScenarioError → ErrorCode
  | .setup .template _ _ => .templateRenderFailed
  | .setup .discovery _ _ => .clusterDiscoveryFailed
  | .setup .create _ _ => .resourceCreateFailed
  | .timeout _ _ _ => .recoveryTimeout
  | .uncordonFailed _ _ => .nodeUncordonFailed
  | .cleanup _ => .chaosCleanupFailed
  | .multipleInstances _ _ => .chaosMultipleInstances
  | .read source => source.code
  | .object _ => .chaosStatusParse
  | .noInstance _ _ => .chaosNoResult

end ScenarioError
end Resilience
