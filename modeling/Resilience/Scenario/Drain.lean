import Resilience.Scenario.Basic
import Resilience.Settings.Basic
/-! # Draining nodes

A workload that is ready loses its nodes one by one: each is cordoned, its pods are deleted, the
workload gets time to become ready again, and the node is uncordoned before the next one is
touched. A node that cannot be uncordoned ends the run.
-/
namespace Resilience

inductive NodeOutcome where
  | recovered
  | notRecovered
  | cordonFailed
  | drainFailed
deriving DecidableEq, Repr

def NodeOutcome.name : NodeOutcome → String
  | .recovered => "recovered"
  | .notRecovered => "not_recovered"
  | .cordonFailed => "cordon_failed"
  | .drainFailed => "drain_failed"

structure NodeRecord where
  node : String
  outcome : NodeOutcome
  podsDeleted : List String := []
  deleteFailures : List String := []
  timeout : Duration := .zero
  wait : Option PollOutcome := none
  reason : String
deriving DecidableEq, Repr

def NodeRecord.toJson (r : NodeRecord) : Json :=
  .object ([("node", .string r.node), ("outcome", .string r.outcome.name),
    ("pods_deleted", .strings r.podsDeleted)] ++
    (if r.deleteFailures.isEmpty then []
      else [("delete_failures", .strings r.deleteFailures)]) ++
    [("timeout", r.timeout.secondsJson)] ++
    Json.optional "wait" PollOutcome.toJson r.wait ++
    [("reason", .string r.reason)])

structure WorkloadReport where
  workload : WorkloadRef
  verdict : Verdict
  reason : String
  nodes : List NodeRecord := []
deriving DecidableEq, Repr

namespace WorkloadReport

def toJson (r : WorkloadReport) : Json :=
  .object [("workload", r.workload.toJson), ("verdict", .string r.verdict.name),
    ("reason", .string r.reason), ("nodes", .array (r.nodes.map NodeRecord.toJson))]

def scenarioReport (r : WorkloadReport) : ScenarioReport :=
  ⟨"node-drain", r.workload.text, r.verdict, r.reason⟩

end WorkloadReport

structure RunReport where
  workloads : List WorkloadReport := []
  aborted : Option String := none
deriving DecidableEq, Repr

namespace RunReport

def count (r : RunReport) (v : Verdict) : Nat := (r.workloads.filter (·.verdict = v)).length

def allPassed (r : RunReport) : Bool :=
  r.aborted.isNone && r.workloads.all fun w => w.verdict == .pass

def members (r : RunReport) : List (String × Json) :=
  ("workloads", .array (r.workloads.map WorkloadReport.toJson)) ::
    Json.optional "aborted" .string r.aborted

end RunReport

namespace Drain

variable {σ : Type}

/-- How long a workload may take to recover from the loss of so many pods. One pod is the least
that counts. -/
def recoveryTimeout (perPod : Duration) (pods : Nat) : Duration :=
  perPod.times (min (max pods 1) (twoTo 32 - 1))

def readyCheck (client : Client σ) (w : WorkloadRef) : Scenario σ Check := do
  match ← Scenario.perform client (.readiness w) with
  | .ok r => pure (.ofBool (Readiness.isReady r w.kind))
  | .error e => pure (.transient e.message)

def waitReady (client : Client σ) (settings : DisruptionSettings) (w : WorkloadRef)
    (timeout : Duration) : Scenario σ PollOutcome :=
  Poll.waitFor settings.pollInterval timeout (readyCheck client w)

structure Deletions where
  deleted : List String := []
  refused : List String := []
deriving DecidableEq, Repr

/-- Deletes pods one after another. A pod that is gone already counts neither way. -/
def deletePods (client : Client σ) : List Pod → Scenario σ Deletions
  | [] => pure {}
  | p :: ps => do
    let reply ← Scenario.perform client (.deletePod p.namespaceName p.name)
    let rest ← deletePods client ps
    match reply with
    | .ok _ => pure { rest with deleted := p.name :: rest.deleted }
    | .error e =>
      if e.isNotFound then pure rest else pure { rest with refused := p.name :: rest.refused }

def eligiblePods (settings : DisruptionSettings) (pods : List Pod) : List Pod :=
  pods.filter fun p => !(settings.skipNodeBound && p.isNodeBound)

def recoveryRecord (w : WorkloadRef) (node : String) (d : Deletions) (timeout : Duration)
    (wait : PollOutcome) : NodeRecord where
  node := node
  outcome := if wait.isConverged then .recovered else .notRecovered
  podsDeleted := d.deleted
  deleteFailures := d.refused
  timeout := timeout
  wait := some wait
  reason :=
    let how := if wait.isConverged then "OK" else "NOK"
    s!"{w.text} recovery {how} after losing node {node}"

/-- Deletes the pods of a cordoned node and waits for the workload. If nothing was deleted because
everything refused, there is nothing to wait for. -/
def drainNode (client : Client σ) (settings : DisruptionSettings) (w : WorkloadRef)
    (node : String) : Scenario σ NodeRecord := do
  match ← Scenario.perform client (.nodePods node) with
  | .error e =>
    pure { node := node, outcome := .drainFailed,
           reason := s!"{w.text}: could not list pods on node {node}: {e.message}" }
  | .ok pods =>
    let eligible := eligiblePods settings pods
    let timeout := recoveryTimeout settings.perPodTimeout eligible.length
    let d ← deletePods client eligible
    if d.deleted.isEmpty && !d.refused.isEmpty then
      let names := ", ".intercalate d.refused
      pure { node := node, outcome := .drainFailed, deleteFailures := d.refused,
             timeout := timeout,
             reason := s!"{w.text}: no pod could be deleted on node {node} ({names})" }
    else
      let wait ← waitReady client settings w timeout
      pure (recoveryRecord w node d timeout wait)

def uncordon (client : Client σ) (node : String) : Scenario σ (Except ScenarioError Unit) := do
  match ← Scenario.perform client (.setSchedulable node true) with
  | .ok _ => pure (.ok ())
  | .error e => pure (.error (.uncordonFailed node e))

def nodeRecord (client : Client σ) (settings : DisruptionSettings) (w : WorkloadRef)
    (node : String) : Scenario σ NodeRecord := do
  match ← Scenario.perform client (.setSchedulable node false) with
  | .error e =>
    pure { node := node, outcome := .cordonFailed,
           reason := s!"{w.text}: could not cordon node {node}: {e.message}" }
  | .ok _ => drainNode client settings w node

/-- The cycles of nodes, one after another, up to the first that cannot be uncordoned. A node whose
cordon failed is uncordoned all the same. -/
def disruptNodes (client : Client σ) (settings : DisruptionSettings) (w : WorkloadRef) :
    List String → Scenario σ (List NodeRecord × Except ScenarioError Unit)
  | [] => pure ([], .ok ())
  | node :: nodes => do
    let r ← nodeRecord client settings w node
    match ← uncordon client node with
    | .error e => pure ([r], .error e)
    | .ok _ => do
      let (rs, result) ← disruptNodes client settings w nodes
      pure (r :: rs, result)

/-- The verdict on a workload from the records of its nodes. A node that did not recover counts
most, then one whose drain failed; without any cordoned node nothing was tested. -/
def summarize (w : WorkloadRef) (records : List NodeRecord) : Verdict × String :=
  let reason := "; ".intercalate (records.map (·.reason))
  if records.any (·.outcome == .notRecovered) then (.fail, reason)
  else if records.any (·.outcome == .drainFailed) then
    (.error, s!"{w.text}: drain did not complete on every node; {reason}")
  else if records.all (·.outcome == .cordonFailed) then
    (.error, s!"{w.text}: no node could be cordoned; {reason}")
  else (.pass, reason)

/-- The nodes of pods, each once, in ascending order. -/
def nodesOf (pods : List Pod) : List String :=
  Dict.keys (Dict.ofList ((pods.filterMap (·.node)).map fun n => (n, ())))

/-- Drives a workload: its baseline, then its nodes. The records are kept also when the run has to
end. -/
def drive (client : Client σ) (settings : DisruptionSettings) (w : WorkloadRef) :
    Scenario σ (List NodeRecord × Except ScenarioError (Verdict × String)) := do
  let baseline ← waitReady client settings w settings.readyTimeout
  if !baseline.isConverged then
    pure ([], .ok (.error, s!"{w.text} is not in a good starting state"))
  else match ← Scenario.perform client (.workloadPods w) with
    | .error e => pure ([], .ok (.error, s!"{w.text}: failed to list pods: {e.message}"))
    | .ok pods =>
      match nodesOf pods with
      | [] => pure ([], .ok (.error, s!"{w.text} has no scheduled pods"))
      | nodes => do
        let (records, result) ← disruptNodes client settings w nodes
        pure (records, result.map fun _ => summarize w records)

/-- Drives one workload and reports it, unless the run has to end. -/
def disruptWorkload (client : Client σ) (settings : DisruptionSettings) (w : WorkloadRef) :
    Scenario σ (Except ScenarioError WorkloadReport) := do
  match ← drive client settings w with
  | (records, .ok (verdict, reason)) =>
    let r : WorkloadReport := ⟨w, verdict, reason, records⟩
    Scenario.report r.scenarioReport
    pure (.ok r)
  | (_, .error e) => pure (.error e)

def runFrom (client : Client σ) (settings : DisruptionSettings) (done : List WorkloadReport) :
    List WorkloadRef → Scenario σ (RunReport × Option ScenarioError)
  | [] => pure (⟨done, none⟩, none)
  | w :: ws => do
    match ← drive client settings w with
    | (records, .ok (verdict, reason)) =>
      let r : WorkloadReport := ⟨w, verdict, reason, records⟩
      Scenario.report r.scenarioReport
      runFrom client settings (done ++ [r]) ws
    | (records, .error e) =>
      let r : WorkloadReport := ⟨w, .error, e.message, records⟩
      Scenario.report r.scenarioReport
      pure (⟨done ++ [r], some e.message⟩, some e)

def run (client : Client σ) (settings : DisruptionSettings) (ws : List WorkloadRef) :
    Scenario σ (RunReport × Option ScenarioError) :=
  runFrom client settings [] ws

end Drain
end Resilience
