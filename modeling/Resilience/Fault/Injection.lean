import Resilience.Fault.Status
import Resilience.Fault.Template
import Resilience.Scenario.Watch
import Resilience.Settings.Basic
/-! # Injecting a fault

The objects of a fault injection are created, its engine is awaited, its result is read, and
everything is deleted again, whatever happened before.
-/
namespace Resilience

structure FaultTarget where
  workload : WorkloadRef
  appLabel : String
deriving DecidableEq, Repr

namespace FaultTarget

def toJson (t : FaultTarget) : Json :=
  .object [("workload", t.workload.toJson), ("app_label", .string t.appLabel)]

def templateValues (t : FaultTarget) : TemplateValues :=
  ⟨t.workload.namespaceName, t.appLabel, t.workload.kind.name⟩

end FaultTarget

structure CreatedObject where
  kind : String
  namespaceName : Option String
  name : String
deriving DecidableEq, Repr

def CreatedObject.toJson (o : CreatedObject) : Json :=
  .object [("kind", .string o.kind), ("namespace", Json.ofOption .string o.namespaceName),
    ("name", .string o.name)]

inductive TeardownStatus where
  | deleted
  | alreadyGone
  | failed
deriving DecidableEq, Repr

def TeardownStatus.name : TeardownStatus → String
  | .deleted => "deleted"
  | .alreadyGone => "already_gone"
  | .failed => "failed"

structure TeardownStep where
  kind : String
  name : String
  status : TeardownStatus
deriving DecidableEq, Repr

def TeardownStep.toJson (s : TeardownStep) : Json :=
  .object [("kind", .string s.kind), ("name", .string s.name), ("status", .string s.status.name)]

structure TeardownReport where
  steps : List TeardownStep := []
  warnings : List CleanupWarning := []
deriving DecidableEq, Repr

namespace TeardownReport

def toJson (r : TeardownReport) : Json :=
  .object [("steps", .array (r.steps.map TeardownStep.toJson)),
    ("warnings", .array (r.warnings.map CleanupWarning.toJson))]

def isClean (r : TeardownReport) : Bool := r.warnings.isEmpty

def result (r : TeardownReport) : Except ScenarioError Unit :=
  if r.isClean then .ok () else .error (.cleanup r.warnings)

end TeardownReport

structure FaultReport where
  workload : WorkloadRef
  experiment : String
  verdict : Verdict
  reason : String
  code : Option ErrorCode
  created : List CreatedObject
  wait : Option PollOutcome
  result : Option ResultVerdict
  teardown : TeardownReport

namespace FaultReport

def toJson (r : FaultReport) : Json :=
  .object ([("workload", r.workload.toJson), ("experiment", .string r.experiment),
    ("verdict", .string r.verdict.name), ("reason", .string r.reason)] ++
    Json.optional "error_code" (fun c => .string c.text) r.code ++
    [("created", .array (r.created.map CreatedObject.toJson))] ++
    Json.optional "wait" PollOutcome.toJson r.wait ++
    Json.optional "result" ResultVerdict.toJson r.result ++
    [("teardown", r.teardown.toJson)])

def scenarioReport (r : FaultReport) : ScenarioReport :=
  ⟨r.experiment, r.workload.text, r.verdict, r.reason⟩

end FaultReport

namespace Fault

variable {σ : Type}

def chaosKind (kind plural : String) : Mapping := ⟨"litmuschaos.io", "v1alpha1", kind, plural, true⟩

def engines : Mapping := chaosKind "ChaosEngine" "chaosengines"

def experiments : Mapping := chaosKind "ChaosExperiment" "chaosexperiments"

def results : Mapping := chaosKind "ChaosResult" "chaosresults"

def serviceAccounts : Mapping := ⟨"", "v1", "ServiceAccount", "serviceaccounts", true⟩

def roles : Mapping := ⟨"rbac.authorization.k8s.io", "v1", "Role", "roles", true⟩

def roleBindings : Mapping :=
  ⟨"rbac.authorization.k8s.io", "v1", "RoleBinding", "rolebindings", true⟩

def engineName : String := "engine-test"

def accountName : String := "test-sa"

def resultName (experiment : String) : String := s!"{engineName}-{experiment}"

/-- Where an object goes whose document names no namespace. -/
def defaultNamespace : String := "default"

/-- The target of a fault injection: a workload with the first of the labels that its pods carry. -/
def resolveTarget (client : Client σ) (labels : List PodLabel) (w : WorkloadRef) :
    Scenario σ (Except ScenarioError FaultTarget) := do
  match ← Scenario.perform client (.podLabels w) with
  | .error e => pure (.error (.read e))
  | .ok carried =>
    match PodLabel.firstCarried? carried labels with
    | some label => pure (.ok ⟨w, label.selector⟩)
    | none =>
      pure (.error (.setup .template w.text
        "no configured target pod label found on the pod template"))

/-- The text at the end of a path, empty if there is none. -/
def textAt (object : Json) (path : List String) : String :=
  ((object.at? path).bind Json.string?).getD ""

def namespaceOf (object : Json) : String :=
  let ns := textAt object ["metadata", "namespace"]
  if ns = "" then defaultNamespace else ns

def withNamespace (object : Json) (ns : String) : Json :=
  object.setMember "metadata"
    (((object.member? "metadata").getD .null).setMember "namespace" (.string ns))

def createDocument (client : Client σ) (document : Json) :
    Scenario σ (Except ScenarioError CreatedObject) := do
  let kind := textAt document ["kind"]
  let name := textAt document ["metadata", "name"]
  let subject := s!"{kind} {name}"
  match ← Scenario.perform client (.resolve (textAt document ["apiVersion"]) kind) with
  | .error e => pure (.error (.setup .discovery subject e.message))
  | .ok mapping =>
    let mapping : Mapping := mapping
    let ns := if mapping.namespaced then some (namespaceOf document) else none
    let object := ns.elim document (withNamespace document)
    match ← Scenario.perform client (.create mapping ns object) with
    | .error e => pure (.error (.setup .create subject e.message))
    | .ok _ => pure (.ok ⟨kind, ns, name⟩)

def createDocuments (client : Client σ) :
    List Json → Scenario σ (List CreatedObject × Except ScenarioError Unit)
  | [] => pure ([], .ok ())
  | d :: ds => do
    match ← createDocument client d with
    | .error e => pure ([], .error e)
    | .ok object =>
      let (objects, result) ← createDocuments client ds
      pure (object :: objects, result)

def applyTemplates (client : Client σ) (source : TemplateSource) (values : TemplateValues) :
    List String → Scenario σ (List CreatedObject × Except ScenarioError Unit)
  | [] => pure ([], .ok ())
  | name :: names =>
    match source.render name values with
    | .error e => pure ([], .error (.setup .template name e.message))
    | .ok documents => do
      match ← createDocuments client documents with
      | (objects, .error e) => pure (objects, .error e)
      | (objects, .ok _) =>
        let (more, result) ← applyTemplates client source values names
        pure (objects ++ more, result)

def templates (settings : FaultInjectionSettings) (files : Files) : TemplateSource :=
  ⟨files, settings.templatesDir⟩

/-- Creates all objects for a target. What was created before a failure comes with it. -/
def apply (client : Client σ) (source : TemplateSource) (target : FaultTarget) :
    Scenario σ (List CreatedObject × Except ScenarioError Unit) :=
  applyTemplates client source target.templateValues Template.creationOrder

/-- What a list of engines says about the end of an experiment. There is to be one engine. -/
def judgeEngines (experiment : String) : List Json → Except ScenarioError Bool
  | [] => .ok false
  | [engine] => ((EngineStatus.ofObject engine).mapError .object).map (·.isCompleted experiment)
  | many => .error (.multipleInstances engines.kind many.length)

def judge (experiment ns : String) :
    Scenario.Judge (Option ScenarioError) (.list engines (some ns)) :=
  fun failure answer =>
    match answer with
    | .error e => (.transient e.message, failure)
    | .ok items =>
      match judgeEngines experiment items with
      | .ok completed => (.ofBool completed, failure)
      | .error e => (.fatal e.message, some e)

def waitForCompletion (client : Client σ) (settings : FaultInjectionSettings) (ns : String) :
    Scenario σ (Except ScenarioError PollOutcome) := do
  let (outcome, failure) ← Scenario.watch client settings.pollInterval settings.waitTimeout
    (.list engines (some ns)) (judge settings.experiment ns) none
  match outcome with
  | .converged _ _ => pure (.ok outcome)
  | .timedOut _ _ lastError =>
    let what := s!"chaos engine {engineName} in {ns}"
    pure (.error (.timeout what settings.waitTimeout lastError))
  | .aborted reason => pure (.error (failure.getD (.setup .create engineName reason)))

def readVerdict (client : Client σ) (ns : String) :
    Scenario σ (Except ScenarioError ResultVerdict) := do
  match ← Scenario.perform client (.list results (some ns)) with
  | .error e => pure (.error (.read e))
  | .ok items =>
    match (items : List Json) with
    | [] => pure (.error (.noInstance results.kind ns))
    | [object] => pure ((ResultVerdict.ofObject object).mapError .object)
    | many => pure (.error (.multipleInstances results.kind many.length))

def teardownTargets (experiment : String) : List (Mapping × String) := [
  (engines, engineName), (serviceAccounts, accountName), (roles, accountName),
  (roleBindings, accountName), (experiments, experiment), (results, resultName experiment)]

/-- Deletes objects one after another, whatever fails. -/
def deleteObjects (client : Client σ) (ns : String) :
    List (Mapping × String) → Scenario σ TeardownReport
  | [] => pure {}
  | (mapping, name) :: rest => do
    let reply ← Scenario.perform client (.delete mapping (some ns) name)
    let report ← deleteObjects client ns rest
    let step (status : TeardownStatus) : List TeardownStep :=
      ⟨mapping.kind, name, status⟩ :: report.steps
    match reply with
    | .ok _ => pure { report with steps := step .deleted }
    | .error e =>
      if e.isNotFound then pure { report with steps := step .alreadyGone }
      else pure ⟨step .failed, ⟨mapping.kind, name, e.message⟩ :: report.warnings⟩

def teardown (client : Client σ) (settings : FaultInjectionSettings) (ns : String) :
    Scenario σ TeardownReport :=
  deleteObjects client ns (teardownTargets settings.experiment)

/-- What came out of a fault injection before it was cleaned up. -/
structure Attempt where
  created : List CreatedObject
  wait : Option PollOutcome := none
  result : Except ScenarioError ResultVerdict

def attempt (client : Client σ) (settings : FaultInjectionSettings) (source : TemplateSource)
    (target : FaultTarget) : Scenario σ Attempt := do
  let ns := target.workload.namespaceName
  match ← apply client source target with
  | (created, .error e) => pure { created := created, result := .error e }
  | (created, .ok _) =>
    match ← waitForCompletion client settings ns with
    | .error e => pure { created := created, result := .error e }
    | .ok wait =>
      pure { created := created, wait := some wait, result := ← readVerdict client ns }

def judgeAttempt (experiment : String) (w : WorkloadRef) :
    Except ScenarioError ResultVerdict → Verdict × String × Option ErrorCode
  | .ok result =>
    if result.hasPassed experiment then (.pass, s!"{experiment} passed for {w.text}", none)
    else (.fail, result.failureReason experiment, some .chaosVerdictFail)
  | .error e =>
    match e with
    | .timeout _ _ _ => (.fail, e.message, some e.code)
    | _ => (.error, e.message, some e.code)

def run (client : Client σ) (settings : FaultInjectionSettings) (source : TemplateSource)
    (target : FaultTarget) : Scenario σ FaultReport := do
  let a ← attempt client settings source target
  let teardown ← teardown client settings target.workload.namespaceName
  let (verdict, reason, code) := judgeAttempt settings.experiment target.workload a.result
  let r : FaultReport :=
    ⟨target.workload, settings.experiment, verdict, reason, code, a.created, a.wait,
      a.result.toOption, teardown⟩
  Scenario.report r.scenarioReport
  pure r

end Fault
end Resilience
