import Resilience.Proofs.Command.Work
import Resilience.Proofs.Except
import Resilience.Proofs.Files
import Resilience.Proofs.Report
/-! # The status of a drain

A drain ends with the status of its run, unless its report cannot be written: then it has failed
like any command, and nothing in its status tells whether a node was left unschedulable.
-/
namespace Resilience.Command

variable {σ : Type} {args : List String} {world : World σ}

/-- A drain that a command line starts: it asks for one, its settings can be loaded and nothing is
wrong with them, there is something to drain, and a cluster can be reached. -/
structure Launch (args : List String) (world : World σ) where
  settingsFile : Option String
  output : Option String
  named : List WorkloadRef
  loaded : Settings
  connection : Connection σ
  asked : Invocation.read args world.vars = .ok ⟨settingsFile, output, .disrupt named⟩
  loads : Settings.load world.files world.vars settingsFile = .ok loaded
  valid : (loaded.withTargets named).validate = .ok ()
  aimed : (loaded.withTargets named).targets ≠ []
  connected : world.connection = some connection

namespace Launch

variable (l : Launch args world)

def settings : Settings := l.loaded.withTargets l.named

def drained : (RunReport × Option ScenarioError) × Timed (Stage σ) :=
  Drain.run l.connection.client l.settings.disruption l.settings.targets
    ⟨{}, { cluster := l.connection.cluster }⟩

def report : RunReport := l.drained.1.1

def failure : Option ScenarioError := l.drained.1.2

def record : Json := runRecord l.report l.connection l.drained.2.clock.now

def text : String := l.record.pretty ++ "\n"

/-- The report can be written where it is to go; the output of a command takes any. -/
def Writable : Prop :=
  ∀ path, l.output = some path → ∃ files, world.files.write path l.text = .ok files

def Written (t : Transcript σ) : Prop :=
  match l.output with
  | none => t.output = l.text
  | some path => t.world.files.readText path = .ok l.text

def worldAfter : World σ :=
  { world with connection := some { l.connection with cluster := l.drained.2.state.cluster } }

theorem loadSettings_run (t : Transcript σ) (same : t.world = world) :
    (loadSettings l.settingsFile).run.run t = (.ok l.loaded, t) := by
  rw [loadSettings, bind_run (get_run t), same]
  dsimp only
  rw [l.loads]
  rfl

theorem onCluster_run (t : Transcript σ) (same : t.world = world) :
    (onCluster fun client => Drain.run client l.settings.disruption l.settings.targets).run.run t =
      (.ok (l.drained.1, l.connection, l.drained.2.clock.now), { t with world := l.worldAfter }) := by
  rw [onCluster, bind_run (get_run t), same, l.connected]
  subst same
  rfl

/-- When the scenario is over, all that is left is to write its report. -/
theorem perform_run : ∃ messages,
    (perform ⟨l.settingsFile, l.output, .disrupt l.named⟩).run.run { world := world } =
      (emit l.record l.output >>= fun _ => pure (runStatus l.report l.failure) : Work σ Nat).run.run
        { messages := messages, world := l.worldAfter } := by
  have some_target : ¬l.settings.targets.isEmpty := by
    rw [List.isEmpty_iff]
    exact l.aimed
  have checked : (orFail (fun e => .coded e.code e.message) l.settings.validate :
      Work σ Unit).run.run { world := world } = (.ok (), { world := world }) := by
    rw [settings, l.valid]
    rfl
  obtain ⟨messages, said⟩ := sayRun_speaks l.report { world := l.worldAfter }
  have start : perform ⟨l.settingsFile, l.output, .disrupt l.named⟩ =
      (loadSettings l.settingsFile >>= fun s => disrupt s l.named l.output : Work σ Nat) := rfl
  refine ⟨messages, ?_⟩
  rw [start, bind_run (l.loadSettings_run _ rfl), disrupt]
  dsimp only
  rw [← settings, bind_run checked, if_neg some_target, bind_run (l.onCluster_run _ rfl)]
  exact bind_run said

/-- A report that can be written is written, and nothing else changes. -/
theorem emit_run (messages : String) (writable : l.Writable) : ∃ t,
    (emit l.record l.output).run.run { messages := messages, world := l.worldAfter } = (.ok (), t) ∧
      l.Written t ∧ t.world.connection = l.worldAfter.connection := by
  unfold Written
  cases dest : l.output with
  | none =>
    refine ⟨_, rfl, ?_, rfl⟩
    exact String.empty_append
  | some path =>
    obtain ⟨files, written⟩ := writable path dest
    have put : l.worldAfter.files.write path (l.record.pretty ++ "\n") = .ok files := written
    refine ⟨{ messages := messages, world := { l.worldAfter with files := files } }, ?_,
      Files.readText_write written, rfl⟩
    rw [emit, bind_run (get_run _)]
    dsimp only
    rw [put]
    rfl

/-- A report that cannot be written makes the command fail, and changes nothing. -/
theorem emit_fails (messages : String) (unwritable : ¬l.Writable) : ∃ f,
    (emit l.record l.output).run.run { messages := messages, world := l.worldAfter } =
      (.error f, { messages := messages, world := l.worldAfter }) := by
  obtain ⟨path, unwritable⟩ := not_forall.mp unwritable
  obtain ⟨dest, unwritable⟩ := Classical.not_imp.mp unwritable
  cases attempt : world.files.write path l.text with
  | ok files => exact absurd ⟨files, attempt⟩ unwritable
  | error e =>
    have put : l.worldAfter.files.write path (l.record.pretty ++ "\n") = .error e := attempt
    rw [dest, emit, bind_run (get_run _)]
    dsimp only
    rw [put]
    exact ⟨_, rfl⟩

/-- A file that could be read could have been written over. -/
theorem not_written {t : Transcript σ} (unwritable : ¬l.Writable)
    (same : t.world.files = world.files) : ¬l.Written t := by
  intro written
  refine unwritable fun path dest => ?_
  rw [Written, dest, same] at written
  exact Files.write_over (Files.isFile_of_read (Files.read_of_readText written)) l.text

theorem run_eq : run args world =
    runInvocation ⟨l.settingsFile, l.output, .disrupt l.named⟩ world := by
  rw [run, l.asked]

theorem run_of_writable (writable : l.Writable) :
    (run args world).1 = runStatus l.report l.failure ∧ l.Written (run args world).2 ∧
      (run args world).2.world.connection = l.worldAfter.connection := by
  obtain ⟨messages, ends⟩ := l.perform_run
  obtain ⟨t, emitted, written, connection⟩ := l.emit_run messages writable
  rw [bind_run emitted] at ends
  rw [l.run_eq, runInvocation, ends]
  exact ⟨rfl, written, connection⟩

theorem run_of_unwritable (unwritable : ¬l.Writable) :
    (run args world).1 = failedStatus ∧ ¬l.Written (run args world).2 ∧
      (run args world).2.world.connection = l.worldAfter.connection := by
  obtain ⟨messages, ends⟩ := l.perform_run
  obtain ⟨f, failed⟩ := l.emit_fails messages unwritable
  rw [bind_run_error failed] at ends
  rw [l.run_eq, runInvocation, ends]
  exact ⟨rfl, l.not_written unwritable rfl, rfl⟩

/-- The drain and the calls behind its result: it failed exactly if one of them stranded a node. -/
theorem drained_logs : ∃ log,
    l.connection.client.Answers l.connection.cluster log l.drained.2.state.cluster ∧
      (l.failure.isSome ↔ ∃ x ∈ log, Drain.Strands x) := by
  obtain ⟨_, logs, course, -, answered, -⟩ := Drain.runFrom_course l.connection.client
    l.settings.disruption [] l.settings.targets ⟨{}, { cluster := l.connection.cluster }⟩
  exact ⟨logs.flatten, answered, course.ends.isSome_iff⟩

end Launch

theorem runStatus_eq_zero_iff (report : RunReport) (ended : Option ScenarioError) :
    runStatus report ended = 0 ↔ ended = none ∧ ∀ w ∈ report.workloads, w.verdict = .pass := by
  cases ended with
  | some e => simp [runStatus, abortedStatus]
  | none => simp [runStatus, Verdict.exitStatus]

theorem runStatus_le (report : RunReport) (ended : Option ScenarioError) :
    runStatus report ended ≤ abortedStatus := by
  unfold runStatus Verdict.exitStatus abortedStatus
  repeat' split
  all_goals omega

/-- A drain has status two exactly if a call failed to make a node schedulable again and the report
could be written, and zero exactly if there was no such call, every workload passed and the report
could be written. Otherwise it has failed, also where it left a node unschedulable. -/
theorem drain_status_iff (l : Launch args world) :
    let ended := run args world
    ∃ log cluster, l.connection.client.Answers l.connection.cluster log cluster ∧
      ended.2.world.connection = some { l.connection with cluster := cluster } ∧
      (l.failure.isSome ↔ ∃ x ∈ log, Drain.Strands x) ∧
      (l.Written ended.2 ↔ l.Writable) ∧
      (ended.1 = abortedStatus ↔ l.failure.isSome ∧ l.Written ended.2) ∧
      (ended.1 = 0 ↔ l.failure = none ∧ (∀ w ∈ l.report.workloads, w.verdict = .pass) ∧
        l.Written ended.2) ∧
      (ended.1 = failedStatus ↔ ended.1 ≠ abortedStatus ∧ ended.1 ≠ 0) := by
  intro ended
  obtain ⟨log, answered, stranded⟩ := l.drained_logs
  refine ⟨log, _, answered, ?_⟩
  -- only behind a written report does the program end with the status of its run
  by_cases writable : l.Writable
  · obtain ⟨status, written, connection⟩ := l.run_of_writable writable
    have status : ended.1 = runStatus l.report l.failure := status
    refine ⟨connection, stranded, iff_of_true written writable, ?two, ?zero, ?one⟩
    case two => rw [status, runStatus_eq_abortedStatus_iff, and_iff_left written]
    case zero => rw [status, runStatus_eq_zero_iff, and_iff_left written]
    case one =>
      have small : runStatus l.report l.failure ≤ 2 := runStatus_le l.report l.failure
      rw [status, failedStatus, abortedStatus]
      omega
  · obtain ⟨status, unwritten, connection⟩ := l.run_of_unwritable writable
    have status : ended.1 = failedStatus := status
    refine ⟨connection, stranded, iff_of_false unwritten writable, ?two, ?zero, ?one⟩
    case two =>
      rw [status]
      exact iff_of_false (by decide) fun both => unwritten both.2
    case zero =>
      rw [status]
      exact iff_of_false (by decide) fun all => unwritten all.2.2
    case one =>
      rw [status]
      exact iff_of_true rfl (by decide)

section StuckNode

def drainTo (path : String) : List String := ["disrupt", "-t", "ns/deployment/web", "-o", path]

def stuckWorld : World ScriptedCluster :=
  ⟨.empty, [], some ⟨ScriptedCluster.client, stuckNode.state.cluster, "run-1", Duration.text⟩⟩

def stuckLaunch (path : String)
    (asked : Invocation.read (drainTo path) [] = .ok ⟨none, some path, .disrupt [blog]⟩) :
    Launch (drainTo path) stuckWorld where
  settingsFile := none
  output := some path
  named := [blog]
  loaded := .builtIn
  connection := _
  asked := asked
  loads := toOption_eq_some (by decide +kernel)
  valid := toOption_eq_some (by decide +kernel)
  aimed := by decide
  connected := rfl

theorem drain_status_iff_stuckNode :
    let launch := stuckLaunch "report.json" (by decide +kernel)
    let ended := run (drainTo "report.json") stuckWorld
    ended.1 = abortedStatus ∧ launch.failure.isSome ∧ launch.Written ended.2 := by
  intro launch ended
  obtain ⟨_, _, _, _, _, _, two, _⟩ := drain_status_iff launch
  have status : ended.1 = abortedStatus := by decide +kernel
  exact ⟨status, two.mp status⟩

/-- Where the report has no directory to lie in, nothing tells of a node that was left
unschedulable. -/
theorem status_may_hide_stranded :
    let launch := stuckLaunch "missing/report.json" (by decide +kernel)
    let ended := run (drainTo "missing/report.json") stuckWorld
    launch.failure = some (.uncordonFailed "n1" (.api 500 "node patch rejected")) ∧
      ended.2.world.connection.map (·.cluster.isSchedulable "n1") = some false ∧
      ended.1 = failedStatus := by
  decide +kernel

end StuckNode

end Resilience.Command
