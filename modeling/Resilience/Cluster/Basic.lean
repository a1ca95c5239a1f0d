import Resilience.Catalog
import Resilience.Workload
/-! # The cluster as seen from outside

What is read from a cluster, the calls that read and change it, and the ways a call can fail. A
client answers calls over a state of its own.
-/
namespace Resilience

inductive ClusterError where
  | notFound (kind name : String)
  | api (code : Nat) (message : String)
  | transport (message : String)
  | decode (message : String)
deriving DecidableEq, Repr

namespace ClusterError

def message : ClusterError → String
  | .notFound kind name => s!"{kind} {name} not found"
  | .api code message => s!"API error {code}: {message}"
  | .transport message => s!"transport error: {message}"
  | .decode message => s!"decode error: {message}"

def isNotFound : ClusterError → Bool
  | .notFound _ _ => true
  | .api code _ => code == 404
  | _ => false

def code : ClusterError → ErrorCode
  | .notFound _ _ => .clusterResourceNotFound
  | .api code _ => if code = 404 then .clusterResourceNotFound else .clusterApiError
  | .transport _ => .clusterUnreachable
  | .decode _ => .clusterDecodeError

end ClusterError

structure Pod where
  namespaceName : String
  name : String
  node : Option String
  ownerKind : Option String
  /-- The pod is a copy of one that its node runs on its own. -/
  mirror : Bool
deriving DecidableEq, Repr, Inhabited

namespace Pod

/-- The pod belongs to its node and would not move to another. -/
def isNodeBound (p : Pod) : Bool := p.mirror || p.ownerKind == some "DaemonSet"

def toJson (p : Pod) : Json :=
  .object [("namespace", .string p.namespaceName), ("name", .string p.name),
    ("node_name", Json.ofOption .string p.node),
    ("owner_kind", Json.ofOption .string p.ownerKind), ("mirror", .bool p.mirror)]

end Pod

structure Readiness where
  desired : Int := 0
  ready : Int := 0
  available : Int := 0
  updated : Int := 0
  unavailable : Int := 0
  current : Int := 0
deriving DecidableEq, Repr, Inhabited

namespace Readiness

def settled (n : Int) : Readiness := ⟨n, n, n, n, 0, n⟩

def degraded (desired ready : Int) : Readiness :=
  ⟨desired, ready, ready, desired, desired - ready, ready⟩

def isReady (r : Readiness) : WorkloadKind → Bool
  | .deployment =>
    r.ready == r.desired && r.available == r.desired && r.updated == r.desired &&
      r.unavailable == 0
  | .statefulSet => r.ready == r.desired && (r.current == r.desired || r.updated == r.desired)

def toJson (r : Readiness) : Json :=
  .object [("desired", .int r.desired), ("ready", .int r.ready), ("available", .int r.available),
    ("updated", .int r.updated), ("unavailable", .int r.unavailable), ("current", .int r.current)]

end Readiness

structure Mapping where
  group : String
  version : String
  kind : String
  plural : String
  namespaced : Bool := true
deriving DecidableEq, Repr, Inhabited

/-- A group and a version in one text; the core group has no name. -/
def joinApiVersion (group version : String) : String :=
  if group = "" then version else s!"{group}/{version}"

def splitApiVersion (apiVersion : String) : String × String :=
  (Text.cutLast? '/' apiVersion).getD ("", apiVersion)

namespace Mapping

def apiVersion (m : Mapping) : String := joinApiVersion m.group m.version

def toJson (m : Mapping) : Json :=
  .object [("group", .string m.group), ("version", .string m.version), ("kind", .string m.kind),
    ("plural", .string m.plural), ("namespaced", .bool m.namespaced)]

end Mapping

def objectName (object : Json) : String :=
  ((object.at? ["metadata", "name"]).bind Json.string?).getD ""

inductive Call where
  | readiness (workload : WorkloadRef)
  | workloadPods (workload : WorkloadRef)
  | podLabels (workload : WorkloadRef)
  | nodePods (node : String)
  | setSchedulable (node : String) (schedulable : Bool)
  | deletePod (namespaceName name : String)
  | resolve (apiVersion kind : String)
  | create (mapping : Mapping) (namespaceName : Option String) (object : Json)
  | list (mapping : Mapping) (namespaceName : Option String)
  | get (mapping : Mapping) (namespaceName : Option String) (name : String)
  | delete (mapping : Mapping) (namespaceName : Option String) (name : String)

namespace Call

def Reply : Call → Type
  | .readiness _ => Readiness
  | .workloadPods _ | .nodePods _ => List Pod
  | .podLabels _ => Dict String String
  | .resolve _ _ => Mapping
  | .list _ _ => List Json
  | .get _ _ _ => Json
  | .setSchedulable _ _ | .deletePod _ _ | .create _ _ _ | .delete _ _ _ => Unit

/-- A place in words: a dash stands for no namespace. -/
def placeText (namespaceName : Option String) : String := namespaceName.getD "-"

def text : Call → String
  | .readiness w => s!"readiness {w.text}"
  | .workloadPods w => s!"workload_pods {w.text}"
  | .podLabels w => s!"pod_labels {w.text}"
  | .nodePods node => s!"node_pods {node}"
  | .setSchedulable node schedulable => s!"set_schedulable {node} {schedulable}"
  | .deletePod ns name => s!"delete_pod {ns}/{name}"
  | .resolve apiVersion kind => s!"resolve {apiVersion} {kind}"
  | .create m ns object => s!"create {m.kind} {placeText ns}/{objectName object}"
  | .list m ns => s!"list {m.kind} {placeText ns}"
  | .get m ns name => s!"get {m.kind} {placeText ns}/{name}"
  | .delete m ns name => s!"delete {m.kind} {placeText ns}/{name}"

def replyJson : (c : Call) → c.Reply → Json
  | .readiness _, r => Readiness.toJson r
  | .workloadPods _, ps | .nodePods _, ps => .array (List.map Pod.toJson ps)
  | .podLabels _, ls => .object (List.map (fun p => (p.1, Json.string p.2)) ls)
  | .resolve _ _, m => Mapping.toJson m
  | .list _ _, objects => .array objects
  | .get _ _ _, object => object
  | .setSchedulable _ _, _ | .deletePod _ _, _ | .create _ _ _, _ | .delete _ _ _, _ => .null

end Call

structure Client (σ : Type) where
  perform : (c : Call) → StateM σ (Except ClusterError c.Reply)

end Resilience
