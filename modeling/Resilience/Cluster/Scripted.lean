import Resilience.Cluster.Basic
import Resilience.Script
/-! # A scripted cluster

A cluster held in memory. Readings may follow scripts, calls may be made to fail, objects lie in
a store ordered by kind, namespace and name, and every call is written down.
-/
namespace Resilience

structure ObjectKey where
  kind : String
  namespaceName : Option String
  name : String
deriving DecidableEq, Repr

namespace ObjectKey

/-- The parts of a key by which keys are ordered; no namespace comes before every other. -/
def parts (k : ObjectKey) : List (List String) := [[k.kind], k.namespaceName.toList, [k.name]]

instance : LT ObjectKey := ⟨fun a b => a.parts < b.parts⟩
instance (a b : ObjectKey) : Decidable (a < b) := inferInstanceAs (Decidable (a.parts < b.parts))

end ObjectKey

structure ScriptedCluster where
  readiness : List (WorkloadRef × Script (Except ClusterError Readiness)) := []
  podLabels : List (WorkloadRef × Dict String String) := []
  /-- The pods, each with the workload that it belongs to. -/
  pods : List (Option WorkloadRef × Pod) := []
  unschedulable : List String := []
  cordonFailures : List String := []
  uncordonFailures : List String := []
  podDeleteFailures : List String := []
  nodePodFailures : List String := []
  kinds : List ((String × String) × Mapping) := []
  objects : Dict ObjectKey Json := []
  createFailures : List (String × ClusterError) := []
  deleteFailures : List (String × ClusterError) := []
  listScripts : List (String × Script (Except ClusterError (List Json))) := []
  getScripts : List ((String × String) × Script (Except ClusterError Json)) := []
  calls : List Call := []

namespace ScriptedCluster

def set {κ α : Type} [DecidableEq κ] (d : List (κ × α)) (k : κ) (a : α) : List (κ × α) :=
  (k, a) :: Dict.erase d k

def registerKind (c : ScriptedCluster) (m : Mapping) : ScriptedCluster :=
  { c with kinds := set c.kinds (m.apiVersion, m.kind) m }

def commonKinds : List Mapping := [
  ⟨"", "v1", "ServiceAccount", "serviceaccounts", true⟩,
  ⟨"rbac.authorization.k8s.io", "v1", "Role", "roles", true⟩,
  ⟨"rbac.authorization.k8s.io", "v1", "RoleBinding", "rolebindings", true⟩,
  ⟨"litmuschaos.io", "v1alpha1", "ChaosEngine", "chaosengines", true⟩,
  ⟨"litmuschaos.io", "v1alpha1", "ChaosExperiment", "chaosexperiments", true⟩,
  ⟨"litmuschaos.io", "v1alpha1", "ChaosResult", "chaosresults", true⟩,
  ⟨"operators.coreos.com", "v1alpha1", "ClusterServiceVersion", "clusterserviceversions", true⟩,
  ⟨"rbac.authorization.k8s.io", "v1", "ClusterRole", "clusterroles", false⟩]

def initial : ScriptedCluster := commonKinds.foldl registerKind {}

def scriptReadiness (c : ScriptedCluster) (w : WorkloadRef)
    (script : Script (Except ClusterError Readiness)) : ScriptedCluster :=
  { c with readiness := set c.readiness w script }

def addWorkload (c : ScriptedCluster) (w : WorkloadRef) (r : Readiness)
    (labels : Dict String String) : ScriptedCluster :=
  { c.scriptReadiness w [.ok r] with podLabels := set c.podLabels w labels }

def addPod (c : ScriptedCluster) (w : WorkloadRef) (name node : String) : ScriptedCluster :=
  { c with pods := c.pods ++
      [(some w, ⟨w.namespaceName, name, some node, some "ReplicaSet", false⟩)] }

def addNodePod (c : ScriptedCluster) (p : Pod) : ScriptedCluster :=
  { c with pods := c.pods ++ [(none, p)] }

/-- An object put into the store, whatever was there. -/
def insertObject (c : ScriptedCluster) (kind : String) (ns : Option String) (object : Json) :
    ScriptedCluster :=
  { c with objects := Dict.insert c.objects ⟨kind, ns, objectName object⟩ object }

def isSchedulable (c : ScriptedCluster) (node : String) : Bool := node ∉ c.unschedulable

def schedulableCalls (c : ScriptedCluster) (node : String) (schedulable : Bool) : Nat :=
  (c.calls.filter fun
    | .setSchedulable n s => n = node && s = schedulable
    | _ => false).length

def deletedPods (c : ScriptedCluster) : List String :=
  c.calls.filterMap fun
    | .deletePod _ name => some name
    | _ => none

def object? (c : ScriptedCluster) (k : ObjectKey) : Option Json := Dict.find? c.objects k

def record (c : ScriptedCluster) (call : Call) : ScriptedCluster :=
  { c with calls := c.calls ++ [call] }

def injected (message : String) : ClusterError := .api 500 message

def missingWorkload (w : WorkloadRef) : ClusterError := .notFound w.kind.apiName w.name

def readReadiness (c : ScriptedCluster) (w : WorkloadRef) :
    Except ClusterError Readiness × ScriptedCluster :=
  match Dict.find? c.readiness w with
  | none => (.error (missingWorkload w), c)
  | some script =>
    ((script.next?).getD (.error (missingWorkload w)),
      { c with readiness := set c.readiness w script.rest })

def readWorkloadPods (c : ScriptedCluster) (w : WorkloadRef) : Except ClusterError (List Pod) :=
  if Dict.contains c.readiness w then
    .ok ((c.pods.filter fun p => p.1 = some w).map Prod.snd)
  else .error (missingWorkload w)

def readPodLabels (c : ScriptedCluster) (w : WorkloadRef) :
    Except ClusterError (Dict String String) :=
  match Dict.find? c.podLabels w with
  | some labels => .ok labels
  | none => .error (missingWorkload w)

def readNodePods (c : ScriptedCluster) (node : String) : Except ClusterError (List Pod) :=
  if node ∈ c.nodePodFailures then .error (injected "pod list rejected")
  else .ok ((c.pods.filter fun p => p.2.node = some node).map Prod.snd)

def setSchedulable (c : ScriptedCluster) (node : String) (schedulable : Bool) :
    Except ClusterError Unit × ScriptedCluster :=
  if node ∈ (if schedulable then c.uncordonFailures else c.cordonFailures) then
    (.error (injected "node patch rejected"), c)
  else
    let others := c.unschedulable.filter (· ≠ node)
    (.ok (), { c with unschedulable := if schedulable then others else node :: others })

/-- Every pod of this namespace and name taken away. -/
def deletePod (c : ScriptedCluster) (ns name : String) :
    Except ClusterError Unit × ScriptedCluster :=
  if name ∈ c.podDeleteFailures then (.error (injected "pod delete rejected"), c)
  else
    let rest := c.pods.filter fun p => !(p.2.namespaceName = ns && p.2.name = name)
    if rest.length = c.pods.length then (.error (.notFound "Pod" name), c)
    else (.ok (), { c with pods := rest })

def resolve (c : ScriptedCluster) (apiVersion kind : String) : Except ClusterError Mapping :=
  match Dict.find? c.kinds (apiVersion, kind) with
  | some m => .ok m
  | none => .error (.notFound "kind" s!"{apiVersion} {kind}")

/-- An object put into the store, unless there is one already. -/
def create (c : ScriptedCluster) (m : Mapping) (ns : Option String) (object : Json) :
    Except ClusterError Unit × ScriptedCluster :=
  match Dict.find? c.createFailures m.kind with
  | some e => (.error e, c)
  | none =>
    let key : ObjectKey := ⟨m.kind, ns, objectName object⟩
    if Dict.contains c.objects key then
      (.error (.api 409 s!"{m.kind} {key.name} already exists"), c)
    else (.ok (), { c with objects := Dict.insert c.objects key object })

def storedObjects (c : ScriptedCluster) (kind : String) (ns : Option String) : List Json :=
  (c.objects.filter fun o =>
    o.1.kind = kind && (ns.isNone || o.1.namespaceName = ns)).map Prod.snd

/-- The next listing of a kind; without a script, of what is stored. -/
def list (c : ScriptedCluster) (m : Mapping) (ns : Option String) :
    Except ClusterError (List Json) × ScriptedCluster :=
  match (Dict.find? c.listScripts m.kind).bind fun s => s.next?.map fun a => (a, s) with
  | some (answer, script) =>
    (answer, { c with listScripts := set c.listScripts m.kind script.rest })
  | none => (.ok (c.storedObjects m.kind ns), c)

def get (c : ScriptedCluster) (m : Mapping) (ns : Option String) (name : String) :
    Except ClusterError Json × ScriptedCluster :=
  match (Dict.find? c.getScripts (m.kind, name)).bind fun s => s.next?.map fun a => (a, s) with
  | some (answer, script) =>
    (answer, { c with getScripts := set c.getScripts (m.kind, name) script.rest })
  | none =>
    match c.object? ⟨m.kind, ns, name⟩ with
    | some object => (.ok object, c)
    | none => (.error (.notFound m.kind name), c)

def delete (c : ScriptedCluster) (m : Mapping) (ns : Option String) (name : String) :
    Except ClusterError Unit × ScriptedCluster :=
  match Dict.find? c.deleteFailures m.kind with
  | some e => (.error e, c)
  | none =>
    let key : ObjectKey := ⟨m.kind, ns, name⟩
    if Dict.contains c.objects key then
      (.ok (), { c with objects := Dict.erase c.objects key })
    else (.error (.notFound m.kind name), c)

/-- The answer to a call, without the note that it was made. -/
def answer : (call : Call) → ScriptedCluster → Except ClusterError call.Reply × ScriptedCluster
  | .readiness w, c => c.readReadiness w
  | .workloadPods w, c => (c.readWorkloadPods w, c)
  | .podLabels w, c => (c.readPodLabels w, c)
  | .nodePods node, c => (c.readNodePods node, c)
  | .setSchedulable node schedulable, c => c.setSchedulable node schedulable
  | .deletePod ns name, c => c.deletePod ns name
  | .resolve apiVersion kind, c => (c.resolve apiVersion kind, c)
  | .create m ns object, c => c.create m ns object
  | .list m ns, c => c.list m ns
  | .get m ns name, c => c.get m ns name
  | .delete m ns name, c => c.delete m ns name

/-- The client of a scripted cluster: every call is written down before it is answered. -/
def client : Client ScriptedCluster := ⟨fun call c => answer call (c.record call)⟩

end ScriptedCluster
end Resilience
