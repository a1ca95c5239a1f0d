import Resilience.Cluster.Object
import Resilience.Cluster.Request
import Resilience.Cluster.Schema.Workload
import Resilience.Text.Escaped
/-! # A cluster behind an API server

Every call becomes at most two requests. An answer with a failing status is a failure of the API,
worded by the server if the body is a status; any other answer has to hold what was asked for. A
call that names an object reports that the object does not exist when the server says so.
-/
namespace Resilience

abbrev Exchange (σ : Type) := Request → StateM σ (Except String Response)

namespace Api

variable {σ α : Type}

def failure? (r : Response) : Option ClusterError :=
  if 400 ≤ r.status ∧ r.status < 600 then
    match (Json.Tree.ofChars? r.body.toList).bind Status.failure? with
    | some (code, message) => some (.api code message)
    | none => some (.api r.status (Text.quoted r.body))
  else none

def decode (read : String → Option α) (r : Response) : Except ClusterError α :=
  match failure? r with
  | some e => .error e
  | none =>
    match read r.body with
    | some a => .ok a
    | none => .error (.decode "the answer does not have the expected form")

def send (exchange : Exchange σ) (problem : Target.Problem → String)
    (target : Except Target.Problem String) (method : Method) (body : Option (String × Json))
    (read : String → Option α) : StateM σ (Except ClusterError α) :=
  match target >>= Target.sent with
  | .error p => pure (.error (.transport (problem p)))
  | .ok target => do
    match ← exchange ⟨method, target, body⟩ with
    | .error message => pure (.error (.transport s!"ServiceError: {message}"))
    | .ok response => pure (decode read response)

def objectProblem : Target.Problem → String
  | .emptyName =>
    s!"Failed to build request: failed to validate request: {Target.Problem.emptyName.message}"
  | p => s!"Failed to build request: failed to build request: {p.message}"

def versionProblem (p : Target.Problem) : String := s!"HttpError: {p.message}"

def naming (kind name : String) : Except ClusterError α → Except ClusterError α
  | .error (.api 404 _) => .error (.notFound kind name)
  | result => result

/-! ## Kinds that the calls know -/

def workloadMapping (kind : WorkloadKind) : Mapping :=
  ⟨"apps", "v1", kind.apiName, match kind with
    | .deployment => "deployments"
    | .statefulSet => "statefulsets", true⟩

def podMapping : Mapping := ⟨"", "v1", "Pod", "pods", true⟩

def nodeMapping : Mapping := ⟨"", "v1", "Node", "nodes", false⟩

def objectType : String := "application/json"

def patchType : String := "application/merge-patch+json"

/-! ## Readings of bodies -/

def fitting (schema : Schema) (body : String) : Option Json :=
  (Json.TreePart.ofText? body).bind schema.read

def object (body : String) : Option Json := (Json.TreePart.ofText? body).bind Object.read?

def list (item : Json.TreePart → Option α) (body : String) : Option (List α) :=
  (Json.TreePart.ofText? body).bind (Object.readList? item)

def removed (read : String → Option Json) (body : String) : Option Unit := do
  let value ← Json.parse? body
  if (value.member? "kind").bind Json.string? = some "Status" then
    (Json.Tree.ofChars? body.toList).bind Status.fits?
  else (read body).map fun _ => ()

/-! ## What objects tell -/

def count (object : Json) (path : List String) (default : Int) : Int :=
  match object.at? path with
  | some (.number (.int n)) => n
  | _ => default

/-- The counters of a workload. One replica is meant where nothing is said. -/
def readiness (kind : WorkloadKind) (object : Json) : Readiness :=
  let desired := count object ["spec", "replicas"] 1
  let status (name : String) := count object ["status", name] 0
  let ready := status "readyReplicas"
  match kind with
  | .deployment => ⟨desired, ready, status "availableReplicas", status "updatedReplicas",
      status "unavailableReplicas", 0⟩
  | .statefulSet => ⟨desired, ready, status "availableReplicas", status "updatedReplicas",
      max (desired - ready) 0, status "currentReplicas"⟩

def textDict (object : Json) (path : List String) : Dict String String :=
  (((object.at? path).bind Json.members?).getD []).filterMap fun m =>
    m.2.string?.map fun s => (m.1, s)

/-- The annotation of a pod that copies one its node runs on its own. -/
def mirrorAnnotation : String := "kubernetes.io/config.mirror"

def podOf (object : Json) : Pod :=
  let text (path : List String) := (object.at? path).bind Json.string?
  let owners := ((object.at? ["metadata", "ownerReferences"]).bind Json.items?).getD []
  let controller := owners.find? fun o =>
    match o.member? "controller" with
    | some (.bool true) => true
    | _ => false
  { namespaceName := (text ["metadata", "namespace"]).getD ""
    name := (text ["metadata", "name"]).getD ""
    node := text ["spec", "nodeName"]
    ownerKind := controller.bind fun o => (o.member? "kind").bind Json.string?
    mirror := (object.at? ["metadata", "annotations", mirrorAnnotation]).isSome }

/-- The kind that a version of a group serves under this name. Parts of other kinds are passed
over. -/
def mappingOf? (resources : Json) (kind : String) : Option Mapping := do
  let served := ((resources.member? "resources").bind Json.items?).getD []
  let text (r : Json) (name : String) := (r.member? name).bind Json.string?
  let r ← served.find? fun r =>
    text r "kind" = some kind && !((text r "name").getD "").toList.contains '/'
  let groupVersion := (text resources "groupVersion").getD ""
  let (group, version) := (Text.cutFirst? '/' groupVersion).getD ("", groupVersion)
  let plural := (text r "name").getD ""
  let first := (served.find? fun r => text r "name" = some plural).getD r
  pure ⟨(text r "group").getD group, (text r "version").getD version, kind, plural,
    match first.member? "namespaced" with
    | some (.bool b) => b
    | _ => false⟩

/-! ## Calls -/

def workloadObject (exchange : Exchange σ) (w : WorkloadRef) :
    StateM σ (Except ClusterError Json) := do
  let target := Target.object (workloadMapping w.kind) (some w.namespaceName) w.name
  let result ← send exchange objectProblem target .get none (fitting (Schema.workload w.kind))
  pure (naming w.kind.apiName w.name result)

def pods (exchange : Exchange σ) (namespaceName : Option String) (key query : String) :
    StateM σ (Except ClusterError (List Pod)) :=
  let target := s!"{Target.objects podMapping namespaceName}?&{key}={Text.formEncoded query}"
  send exchange objectProblem (.ok target) .get none
    (list fun part => (Schema.pod.read part).map podOf)

def remove (exchange : Exchange σ) (m : Mapping) (namespaceName : Option String) (name : String)
    (options : List (String × Json)) (read : String → Option Json) :
    StateM σ (Except ClusterError Unit) := do
  let target := (Target.object m namespaceName name).map (· ++ "?")
  let body := some (objectType, Json.object options)
  let result ← send exchange objectProblem target .delete body (removed read)
  pure (naming m.kind name result)

def perform (exchange : Exchange σ) : (c : Call) → StateM σ (Except ClusterError c.Reply)
  | .readiness w => do
    pure ((← workloadObject exchange w).map (readiness w.kind))
  | .workloadPods w => do
    match ← workloadObject exchange w with
    | .error e => pure (.error e)
    | .ok object =>
      let selector := textDict object ["spec", "selector", "matchLabels"]
      if selector.isEmpty then pure (.ok ([] : List Pod))
      else pods exchange (some w.namespaceName) "labelSelector" (PodLabel.query selector)
  | .podLabels w => do
    pure ((← workloadObject exchange w).map fun object =>
      textDict object ["spec", "template", "metadata", "labels"])
  | .nodePods node => pods exchange none "fieldSelector" s!"spec.nodeName={node}"
  | .setSchedulable node schedulable => do
    let target := (Target.object nodeMapping none node).map (· ++ "?")
    let change := Json.object [("spec", .object [("unschedulable", .bool !schedulable)])]
    let result ← send exchange objectProblem target .patch (some (patchType, change))
      fun body => (fitting Schema.node body).map fun _ => ()
    pure (naming nodeMapping.kind node result)
  | .deletePod ns name => remove exchange podMapping (some ns) name [] (fitting Schema.pod)
  | .resolve apiVersion kind => do
    let (group, version) := splitApiVersion apiVersion
    let resources ← send exchange versionProblem (.ok (Target.version group version)) .get none
      (fitting Schema.resourceList)
    pure (resources.bind fun resources =>
      match mappingOf? resources kind with
      | some m => .ok m
      | none => .error (.notFound "kind" s!"{apiVersion} {kind}"))
  | .create m ns object => do
    match Object.read? object with
    | none => pure (.error (.decode "the object does not have the form of an object"))
    | some object =>
      send exchange objectProblem (.ok (Target.objects m ns ++ "?")) .post
        (some (objectType, object)) fun body => (Api.object body).map fun _ => ()
  | .list m ns =>
    send exchange objectProblem (.ok (Target.objects m ns ++ "?")) .get none (list Object.read?)
  | .get m ns name => do
    let result ← send exchange objectProblem (Target.object m ns name) .get none object
    pure (naming m.kind name result)
  | .delete m ns name =>
    remove exchange m ns name [("propagationPolicy", .string "Foreground")] object

def client (exchange : Exchange σ) : Client σ := ⟨perform exchange⟩

end Api
end Resilience
