import Resilience.Command.Failure
import Resilience.Command.Invocation
import Resilience.Fault.Injection
import Resilience.Scenario.Drain
import Resilience.Scenario.Phase
import Resilience.Settings.Load
import Resilience.Snapshot.Claim
import Resilience.Snapshot.Difference
import Resilience.Snapshot.Merge
/-! # Running a command

A command reads the world, writes reports and messages, and ends with a status: zero if all went
well, one if not, and two if a node could not be returned to service or the arguments make no
command. A failure ends the command at once; what it has written before stays written.
-/
namespace Resilience

structure Connection (σ : Type) where
  client : Client σ
  cluster : σ
  /-- The name of the run. -/
  runName : String
  /-- The time of day in words, so long after the start. -/
  timeOfDay : Duration → String

structure World (σ : Type) where
  files : Files
  vars : Dict String String
  connection : Option (Connection σ)

structure Transcript (σ : Type) where
  output : String := ""
  messages : String := ""
  world : World σ

abbrev Work (σ : Type) := ExceptT Failure (StateM (Transcript σ))

namespace Command

variable {σ α : Type}

/-! ## Parts of commands -/

def say (line : String) : Work σ Unit :=
  modify fun t => { t with messages := t.messages ++ line ++ "\n" }

def print (text : String) : Work σ Unit :=
  modify fun t => { t with output := t.output ++ text }

def orFail {ε : Type} (failure : ε → Failure) : Except ε α → Work σ α
  | .ok a => pure a
  | .error e => throw (failure e)

def emit (report : Json) : Option String → Work σ Unit
  | none => print (report.pretty ++ "\n")
  | some path => do
    let t ← get
    match t.world.files.write path (report.pretty ++ "\n") with
    | .ok files => set { t with world.files := files }
    | .error e => throw ((Failure.plain e.message).within s!"writing report to {path}")

def unreachable : Failure :=
  (Failure.coded .clusterUnreachable
    (ClusterError.transport "no API server is configured").message).within
    ErrorCode.clusterUnreachable.message

def onCluster (x : Client σ → Scenario σ α) : Work σ (α × Connection σ × Duration) := do
  let t ← get
  match t.world.connection with
  | none => throw unreachable
  | some c =>
    let (a, after) := x c.client ⟨{}, { cluster := c.cluster }⟩
    set { t with world.connection := some { c with cluster := after.state.cluster } }
    pure (a, c, after.clock.now)

/-! ## Draining nodes -/

/-- The status of a command whose run could not return a node to service. -/
def abortedStatus : Nat := 2

def runStatus (report : RunReport) (ended : Option ScenarioError) : Nat :=
  if ended.isSome then abortedStatus
  else Verdict.exitStatus (report.workloads.map (·.verdict))

/-- Only a run that could not return a node to service has this status. -/
theorem runStatus_eq_abortedStatus_iff (report : RunReport) (ended : Option ScenarioError) :
    runStatus report ended = abortedStatus ↔ ended.isSome := by
  cases ended with
  | some e => simp [runStatus]
  | none =>
    have small : Verdict.exitStatus (report.workloads.map (·.verdict)) ≤ 1 := by
      unfold Verdict.exitStatus
      split <;> omega
    constructor
    · intro h
      simp only [runStatus, abortedStatus, Option.isSome_none] at h
      simp at h
      omega
    · simp

def sayRun (report : RunReport) : Work σ Unit := do
  for w in report.workloads do
    say s!"{w.verdict.name} {w.workload.text}"
    say (Text.indent "  " w.reason)
  match report.aborted with
  | some reason => say s!"aborted: {reason}"
  | none => pure ()

def runRecord (report : RunReport) (c : Connection σ) (elapsed : Duration) : Json :=
  .object ([("run_id", .string c.runName), ("started_at", .string (c.timeOfDay .zero)),
    ("finished_at", .string (c.timeOfDay elapsed))] ++ report.members)

def disrupt (settings : Settings) (targets : List WorkloadRef) (output : Option String) :
    Work σ Nat := do
  let settings := settings.withTargets targets
  orFail (fun e => .coded e.code e.message) settings.validate
  if settings.targets.isEmpty then
    throw (.coded .configNoTargets ErrorCode.configNoTargets.message)
  let ((report, ended), c, elapsed) ← onCluster fun client =>
    Drain.run client settings.disruption settings.targets
  sayRun report
  emit (runRecord report c elapsed) output
  pure (runStatus report ended)

/-! ## Fault injection -/

def labelsNeeded : Failure :=
  .coded .configValidationError
    "no target_pod_labels configured; the experiment needs an app label"

def injectFault (settings : Settings) (w : WorkloadRef) (output : Option String) :
    Work σ Nat := do
  if settings.targetLabels.isEmpty then throw labelsNeeded
  let files := (← get).world.files
  let (target, _) ← onCluster fun client =>
    Fault.resolveTarget client settings.targetLabels w
  let target ← orFail (fun e => .coded e.code e.message) target
  let (report, _) ← onCluster fun client =>
    Fault.run client settings.faultInjection (Fault.templates settings.faultInjection files) target
  say s!"{report.verdict.name} {report.workload.text}: {report.reason}"
  for w in report.teardown.warnings do
    say s!"  teardown: {w.text}"
  emit report.toJson output
  pure (Verdict.exitStatus [report.verdict])

/-! ## Operators -/

def waitRecord (ns name : String) (outcome : PhaseOutcome) : Json :=
  .object ([("namespace", .string ns), ("name", .string name),
    ("succeeded", .bool outcome.hasSucceeded),
    ("reason", .string (outcome.reason (Phase.subject ns name)))] ++
    Json.optional "error_code" (fun c => .string c.text) outcome.code? ++
    [("outcome", outcome.toJson)])

def awaitOperator (settings : Settings) (ns name : String) (output : Option String) :
    Work σ Nat := do
  let (outcome, _) ← onCluster fun client => Phase.wait client settings.operator ns name
  say (outcome.reason (Phase.subject ns name))
  emit (waitRecord ns name outcome) output
  pure (if outcome.hasSucceeded then 0 else 1)

/-! ## Claims -/

def compare (baseline candidate : String) (asJson : Bool) (output : Option String) :
    Work σ Nat := do
  let files := (← get).world.files
  let load (path : String) : Work σ Snapshot :=
    orFail (fun e => .coded e.code e.message) (Snapshot.load files path)
  let baseline ← load baseline
  let candidate ← load candidate
  let difference := baseline.difference candidate
  if asJson || output.isSome then emit difference.toJson output else print difference.text
  pure 0

def addReports (claim directory : String) (output : Option String) : Work σ Nat := do
  let t ← get
  let (update, files) ← orFail (fun e => .coded e.code e.message)
    (Claim.addReports t.world.files claim directory)
  set { t with world.files := files }
  for key in update.skipped do
    say s!"Skipping: {key} already exists in claim {claim}"
  if update.changed then
    let keys := ", ".intercalate update.added
    say s!"Claim file {claim} updated: {keys}"
  else say s!"No changes were applied to {claim}"
  if output.isSome then emit update.toJson output
  pure 0

/-! ## Whole commands -/

def loadSettings (path : Option String) : Work σ Settings := do
  let world := (← get).world
  orFail (fun e => (Failure.coded e.code e.message).within "loading configuration")
    (Settings.load world.files world.vars path)

/-- What a command does, and its status if it does not fail. Commands on files alone need no
settings. -/
def perform (i : Invocation) : Work σ Nat := do
  match i.action with
  | .compare baseline candidate asJson => compare baseline candidate asJson i.output
  | .addReports claim directory => addReports claim directory i.output
  | .disrupt targets => disrupt (← loadSettings i.settings) targets i.output
  | .injectFault w => injectFault (← loadSettings i.settings) w i.output
  | .awaitOperator ns name => awaitOperator (← loadSettings i.settings) ns name i.output

def failedStatus : Nat := 1

def runInvocation (i : Invocation) (world : World σ) : Nat × Transcript σ :=
  match (perform i).run.run { world := world } with
  | (.ok status, t) => (status, t)
  | (.error f, t) => (failedStatus, { t with messages := t.messages ++ f.report })

def misuseStatus : Nat := 2

def usage : String :=
  "".intercalate (List.map (· ++ "\n") [
    "usage: kcert [-c FILE] [-o FILE] [-v] [--log-json] COMMAND",
    "",
    "commands:",
    "  disrupt [-t NS/KIND/NAME]...",
    "  chaos -n NAMESPACE -w WORKLOAD [-k KIND]",
    "  operator-wait -n NAMESPACE --name NAME",
    "  compare --baseline FILE --candidate FILE [--json]",
    "  claim add --claim FILE -r DIRECTORY"])

def run (args : List String) (world : World σ) : Nat × Transcript σ :=
  match Invocation.read args world.vars with
  | .ok i => runInvocation i world
  | .error .help => (0, { output := usage, world := world })
  | .error .version =>
    (0, { output := s!"{Invocation.programName} {Invocation.version}\n", world := world })
  | .error (.misuse reason) =>
    (misuseStatus, { messages := s!"error: {reason.message}\n\n{usage}", world := world })

end Command
end Resilience
