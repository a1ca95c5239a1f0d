import Resilience.Proofs.Drain.Abort
import Resilience.Proofs.Fault.Cleanup
import Resilience.Proofs.Scenario.Frame
import Resilience.Scenario.Phase
/-! # What a scenario hands over

Calls and waits report nothing, so that a scenario has reported what it says at its end. Every
scenario ends with one report, but for a single workload whose node stays unschedulable.
-/
namespace Resilience

variable {σ α β ν : Type}

def Silent (m : Scenario σ α) : Prop := Keeps Stage.reports (· = ·) m

def HandedOver (rs : List ScenarioReport) (s s' : Timed (Stage σ)) : Prop :=
  s'.state.reports = s.state.reports ++ rs

/-- Whatever it starts from, a run hands over the report that its result tells. -/
def Reports (m : Scenario σ α) (told : α → ScenarioReport) : Prop :=
  ∀ s, HandedOver [told (m s).1] s (m s).2

namespace Silent

variable {client : Client σ} {call : Call}

theorem perform : Silent (Scenario.perform client call) := fun _ => rfl

theorem watch (interval timeout : Duration) (judge : Scenario.Judge ν call) (note : ν) :
    Silent (Scenario.watch client interval timeout call judge note) := by
  -- the answers to one call are judged, which reports nothing
  have look : Keeps (fun n : Scenario.Noted ν σ => n.stage.reports) (· = ·)
      (Scenario.look client call judge) := fun _ => rfl
  exact fun s => look.waitFor interval timeout ⟨s.clock, ⟨s.state, note⟩⟩

end Silent

namespace Reports

variable {told : β → ScenarioReport}

theorem behind {m : Scenario σ α} {f : α → Scenario σ β} (hm : Silent m)
    (hf : ∀ a, Reports (f a) told) : Reports (m >>= f) told := by
  intro s
  have same : s.state.reports = (m s).2.state.reports := hm s
  have handed := hf (m s).1 (m s).2
  rw [HandedOver, ← same] at handed
  exact handed

theorem report (b : β) :
    Reports (Scenario.report (told b) >>= fun _ => pure b : Scenario σ β) told :=
  fun _ => rfl

end Reports

/-! ## The scenarios -/

namespace Fault

variable (client : Client σ) (settings : FaultInjectionSettings)

theorem attempt_silent (source : TemplateSource) (target : FaultTarget) :
    Silent (attempt client settings source target) := by
  intro s
  -- beside itself it comes to the same, and leaves both stages with the reports that they had
  let R : Stage σ → Stage σ → Prop := fun t t' => t = t' ∧ t.reports = s.state.reports
  have alike : ∀ call, Scenario.AnswersAlike client R call := by
    rintro call t _ ⟨rfl, same⟩
    exact ⟨rfl, rfl, same⟩
  have agrees := attempt_agrees (fun call _ => alike call) settings source target
  exact (agrees s s ⟨rfl, rfl⟩).2.2.symm

theorem deleteObjects_silent (ns : String) (targets : List (Mapping × String)) :
    Silent (deleteObjects client ns targets) := by
  induction targets with
  | nil => exact Keeps.pure _
  | cons t targets ih =>
    intro s
    rw [deleteObjects_cons]
    exact ih (Scenario.perform client _ s).2

theorem run_reports (source : TemplateSource) (target : FaultTarget) :
    Reports (run client settings source target) FaultReport.scenarioReport :=
  Reports.behind (attempt_silent client settings source target) fun _ =>
    Reports.behind (deleteObjects_silent client _ _) fun _ => Reports.report _

end Fault

namespace Phase

def scenarioReport (ns name : String) (outcome : PhaseOutcome) : ScenarioReport :=
  ⟨"operator-phase", subject ns name, outcome.verdict, outcome.reason (subject ns name)⟩

theorem wait_reports (client : Client σ) (settings : OperatorSettings) (ns name : String) :
    Reports (wait client settings ns name) (scenarioReport ns name) :=
  Reports.behind (Silent.watch _ _ _ _) fun _ => Reports.report _

end Phase

namespace Drain

variable (client : Client σ) (settings : DisruptionSettings)

/-- What a run over workloads hands over: a report of every workload that it drove, which are all of
them unless a failure struck the last one. -/
structure Accounts (ws : List WorkloadRef) (s : Timed (Stage σ))
    (r : (RunReport × Option ScenarioError) × Timed (Stage σ)) : Prop where
  handed : HandedOver (r.1.1.workloads.map WorkloadReport.scenarioReport) s r.2
  driven : ∃ logs, client.Answers s.state.cluster logs.flatten r.2.state.cluster ∧
    List.Forall₂ (fun w log => Drives client settings w.workload w.nodes log) r.1.1.workloads logs
  inOrder : r.1.1.workloads.map (·.workload) <+: ws
  whole : r.1.2 = none → r.1.1.workloads.map (·.workload) = ws
  struck : ∀ e, r.1.2 = some e → ∃ last, r.1.1.workloads.getLast? = some last ∧
    last.verdict = .error ∧ last.reason = e.message

/-- What a single workload hands over: its report, but nothing if its last call stranded a node. -/
inductive AccountsForOne (w : WorkloadRef) (s s' : Timed (Stage σ)) :
    Except ScenarioError WorkloadReport → Prop
  | reported {r : WorkloadReport} {log : List LogEntry} (own : r.workload = w)
      (answered : client.Answers s.state.cluster log s'.state.cluster)
      (clean : ∀ x ∈ log, ¬Strands x) (handed : HandedOver [r.scenarioReport] s s') :
      AccountsForOne w s s' (.ok r)
  | silent (node : String) (source : ClusterError) {earlier : List LogEntry}
      (answered : client.Answers s.state.cluster
        (earlier ++ [⟨.setSchedulable node true, .error source⟩]) s'.state.cluster)
      (clean : ∀ x ∈ earlier, ¬Strands x) (handed : HandedOver [] s s') :
      AccountsForOne w s s' (.error (.uncordonFailed node source))

theorem run_accounts (ws : List WorkloadRef) (s : Timed (Stage σ)) :
    Accounts client settings ws s (run client settings ws s) := by
  obtain ⟨reports, logs, course, told, answered, handed⟩ := runFrom_course client settings [] ws s
  have told : (run client settings ws s).1.1 = ⟨reports, _⟩ := told
  obtain ⟨whole, struck⟩ := course.workloads
  refine ⟨?handed, ?driven, ?inOrder, ?whole, ?struck⟩
  all_goals rw [told]
  case handed => exact handed
  case driven => exact ⟨logs, answered, course.accounted.imp fun _ _ h => h.1⟩
  case inOrder =>
    cases failure : (run client settings ws s).1.2 with
    | none => exact (whole failure).subst (List.prefix_refl _)
    | some e => exact (struck e failure).1
  case whole => exact whole
  case struck => exact fun e failed => (struck e failed).2

theorem disruptWorkload_accounts (w : WorkloadRef) (s : Timed (Stage σ)) :
    AccountsForOne client w s (disruptWorkload client settings w s).2
      (disruptWorkload client settings w s).1 := by
  obtain ⟨log, answered, silent, driven⟩ := drive_logs client settings w s
  simp only [disruptWorkload, bind, StateT.bind]
  generalize drive client settings w s = made at answered silent driven ⊢
  obtain ⟨⟨records, result⟩, after⟩ := made
  -- only a stranded node ends the run of a workload
  have ends := driven.ends
  cases result with
  | ok verdict => exact .reported rfl answered ends.clean (congrArg (· ++ _) silent)
  | error e =>
    obtain ⟨node, source, earlier, rfl, rfl, clean⟩ := ends.eq_append
    exact .silent node source answered clean (silent.trans (List.append_nil _).symm)

end Drain

/-- Every scenario hands over exactly one report, which tells its result: a run one for each
workload that it drives, also for the one that ends it, a fault injection and a wait for an operator
one each, whatever becomes of them. Only a workload that is driven by itself hands over none, if its
node could not be made schedulable again. -/
theorem reports_unless_stranded (client : Client σ) (s : Timed (Stage σ)) :
    (∀ (settings : DisruptionSettings) (ws : List WorkloadRef),
      Drain.Accounts client settings ws s (Drain.run client settings ws s)) ∧
    (∀ (settings : DisruptionSettings) (w : WorkloadRef),
      Drain.AccountsForOne client w s (Drain.disruptWorkload client settings w s).2
        (Drain.disruptWorkload client settings w s).1) ∧
    (∀ (settings : FaultInjectionSettings) (source : TemplateSource) (target : FaultTarget),
      let r := Fault.run client settings source target s
      HandedOver [r.1.scenarioReport] s r.2) ∧
    ∀ (settings : OperatorSettings) (ns name : String),
      let r := Phase.wait client settings ns name s
      HandedOver [Phase.scenarioReport ns name r.1] s r.2 :=
  ⟨fun settings ws => Drain.run_accounts client settings ws s,
    fun settings w => Drain.disruptWorkload_accounts client settings w s,
    fun settings source target => Fault.run_reports client settings source target s,
    fun settings ns name => Phase.wait_reports client settings ns name s⟩

section StuckNode

def blog : WorkloadRef := ⟨"ns", "web", .deployment⟩

def stuckNode : Timed (Stage ScriptedCluster) :=
  ⟨{}, ⟨{ (ScriptedCluster.initial.scriptReadiness blog [.ok (.settled 1)]).addPod blog "web-1" "n1"
    with uncordonFailures := ["n1"] }, []⟩⟩

/-- A workload that is driven by itself may end in an error of which nothing is reported, where a
run of just this workload reports the error. -/
theorem disruptWorkload_may_not_report :
    let e : ScenarioError := .uncordonFailed "n1" (.api 500 "node patch rejected")
    let alone := Drain.disruptWorkload ScriptedCluster.client {} blog stuckNode
    let run := Drain.run ScriptedCluster.client {} [blog] stuckNode
    alone.1 = .error e ∧ alone.2.state.reports = stuckNode.state.reports ∧
      run.1.2 = some e ∧
      run.2.state.reports = [⟨"node-drain", blog.text, .error, e.message⟩] := by
  decide +kernel

end StuckNode

end Resilience
