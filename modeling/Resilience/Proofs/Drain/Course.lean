import Resilience.Proofs.Dict
import Resilience.Proofs.Drain.Accounts
import Resilience.Proofs.Drain.Cordon
import Resilience.Proofs.Scenario.Log
/-! # The course of a run

Which calls a run makes, in which order, and how they are answered. Each part of a run has a
relation between what it results in and its log; the log of a whole run is that of its workloads,
one behind the other.
-/
namespace Resilience.Drain

def ShowsReady (w : WorkloadRef) (x : LogEntry) : Prop :=
  ∃ r : Readiness, x = ⟨.readiness w, .ok r⟩ ∧ r.isReady w.kind = true

def Misses (w : WorkloadRef) (x : LogEntry) : Prop := x.call = .readiness w ∧ ¬ ShowsReady w x

/-- The readings of a wait: the last one, and no other, shows the workload ready if the wait
converged. -/
inductive Waited (w : WorkloadRef) : Bool → List LogEntry → Prop
  | missed {log : List LogEntry} (misses : ∀ x ∈ log, Misses w x) : Waited w false log
  | met {log : List LogEntry} {x : LogEntry} (misses : ∀ x ∈ log, Misses w x)
      (ready : ShowsReady w x) : Waited w true (log ++ [x])

def deletions (pods : List Pod) : List Call := pods.map fun p => .deletePod p.namespaceName p.name

section Relations

variable (settings : DisruptionSettings) (w : WorkloadRef)

/-- The log of a node that was cordoned, up to its uncordon. -/
inductive Drained (node : String) : NodeOutcome → List LogEntry → Prop
  | unlisted (e : ClusterError) : Drained node .drainFailed [⟨.nodePods node, .error e⟩]
  | stuck (pods : List Pod) {deletes : List LogEntry}
      (calls : deletes.map LogEntry.call = deletions (eligiblePods settings pods)) :
      Drained node .drainFailed (⟨.nodePods node, .ok pods⟩ :: deletes)
  | waited (pods : List Pod) {deletes readings : List LogEntry} {converged : Bool}
      (calls : deletes.map LogEntry.call = deletions (eligiblePods settings pods))
      (wait : Waited w converged readings) :
      Drained node (if converged then .recovered else .notRecovered)
        (⟨.nodePods node, .ok pods⟩ :: (deletes ++ readings))

/-- The log of a node from its cordon up to its uncordon. -/
inductive Handled (node : String) : NodeOutcome → List LogEntry → Prop
  | refused (e : ClusterError) :
      Handled node .cordonFailed [⟨.setSchedulable node false, .error e⟩]
  | drained {outcome : NodeOutcome} {log : List LogEntry}
      (drain : Drained settings w node outcome log) :
      Handled node outcome (⟨.setSchedulable node false, .ok ()⟩ :: log)

/-- The log of nodes that are taken one after another, up to one that cannot be uncordoned. -/
inductive Cycles : List String → List NodeRecord → Except ScenarioError Unit →
    List LogEntry → Prop
  | done : Cycles [] [] (.ok ()) []
  | next {node : String} {nodes : List String} {r : NodeRecord} {rs : List NodeRecord}
      {result : Except ScenarioError Unit} {body log : List LogEntry} (named : r.node = node)
      (handled : Handled settings w node r.outcome body) (rest : Cycles nodes rs result log) :
      Cycles (node :: nodes) (r :: rs) result (body ++ ⟨.setSchedulable node true, .ok ()⟩ :: log)
  | stranded {node : String} {nodes : List String} {r : NodeRecord} {body : List LogEntry}
      (named : r.node = node) (handled : Handled settings w node r.outcome body)
      (e : ClusterError) :
      Cycles (node :: nodes) [r] (.error (.uncordonFailed node e))
        (body ++ [⟨.setSchedulable node true, .error e⟩])

inductive Driven : List NodeRecord → Except ScenarioError (Verdict × String) →
    List LogEntry → Prop
  | unready (reason : String) {baseline : List LogEntry} (wait : Waited w false baseline) :
      Driven [] (.ok (.error, reason)) baseline
  | unlisted (reason : String) {baseline : List LogEntry} (wait : Waited w true baseline)
      (e : ClusterError) :
      Driven [] (.ok (.error, reason)) (baseline ++ [⟨.workloadPods w, .error e⟩])
  | unscheduled (reason : String) {baseline : List LogEntry} (wait : Waited w true baseline)
      {pods : List Pod} (nowhere : nodesOf pods = []) :
      Driven [] (.ok (.error, reason)) (baseline ++ [⟨.workloadPods w, .ok pods⟩])
  | disrupted {baseline : List LogEntry} (wait : Waited w true baseline) {pods : List Pod}
      (hosted : nodesOf pods ≠ []) {records : List NodeRecord}
      {result : Except ScenarioError Unit} {log : List LogEntry}
      (cycles : Cycles settings w (nodesOf pods) records result log)
      {outcome : Except ScenarioError (Verdict × String)}
      (summary : outcome = result.map fun _ => summarize w records) :
      Driven records outcome (baseline ++ ⟨.workloadPods w, .ok pods⟩ :: log)

end Relations

section Parts

variable {σ : Type} (client : Client σ) (settings : DisruptionSettings) (w : WorkloadRef)

theorem readyCheck_logs : Logs client (readyCheck client w) fun answer log =>
    ∃ x, log = [x] ∧ match answer with
      | .holds => ShowsReady w x
      | .fatal _ => False
      | .notYet | .transient _ => Misses w x := by
  refine Logs.perform_bind fun answer => ?_
  cases answer with
  | error e =>
    refine Logs.pure ⟨_, rfl, rfl, ?_⟩
    rintro ⟨r, same, -⟩
    cases same
  | ok r =>
    refine Logs.pure ⟨_, rfl, ?_⟩
    cases ready : Readiness.isReady r w.kind with
    | true => exact ⟨r, rfl, ready⟩
    | false =>
      refine ⟨rfl, ?_⟩
      rintro ⟨r', same, ready'⟩
      cases same
      exact absurd (ready.symm.trans ready') (by decide)

theorem waitReady_logs (timeout : Duration) : Logs client (waitReady client settings w timeout)
    fun outcome log => Waited w outcome.isConverged log := by
  refine (Logs.waitFor (fun log => ∀ x ∈ log, Misses w x) (Waited w true) (fun _ => False)
    (by simp) (fun first missed => ?_) _ _).imp ?_
  · refine (readyCheck_logs client w).imp ?_
    rintro answer _ ⟨x, rfl, last⟩
    cases answer with
    | holds => exact .met missed last
    | fatal _ => exact last
    | notYet | transient _ =>
      intro y hy
      rcases List.mem_append.mp hy with hy | hy
      · exact missed y hy
      · exact List.mem_singleton.mp hy ▸ last
  · intro outcome log h
    cases outcome with
    | converged _ _ => exact h
    | timedOut _ _ _ => exact .missed h
    | aborted _ => exact h.elim

theorem Sorted.calls {pods : List Pod} {log : List LogEntry} {deleted refused : List String}
    (h : Sorted pods log deleted refused) : log.map LogEntry.call = deletions pods := by
  induction h with
  | nil => rfl
  | deleted _ ih | refused _ _ ih | missing _ _ ih =>
    rw [List.map_cons, ih]
    rfl

theorem deletePods_logs (pods : List Pod) : Logs client (deletePods client pods)
    fun _ log => log.map LogEntry.call = deletions pods := by
  intro s
  obtain ⟨log, c, answered, sorted, left⟩ := deletePods_sorted client s pods
  refine ⟨log, ?_, ?_, sorted.calls⟩
  · rw [left]
    exact answered
  · rw [left]
    rfl

theorem drainNode_logs (node : String) : Logs client (drainNode client settings w node)
    fun r log => r.node = node ∧ Drained settings w node r.outcome log := by
  refine Logs.perform_bind fun listed => ?_
  cases listed with
  | error e => exact Logs.pure ⟨rfl, .unlisted e⟩
  | ok pods =>
    refine (deletePods_logs client _).bind fun d deletes calls => ?_
    dsimp only
    split
    · exact Logs.pure ⟨rfl, (List.append_nil deletes).symm ▸ .stuck pods calls⟩
    · exact (waitReady_logs client settings w _).bind_pure fun wait readings waited =>
        ⟨rfl, .waited pods calls waited⟩

theorem nodeRecord_logs (node : String) : Logs client (nodeRecord client settings w node)
    fun r log => r.node = node ∧ Handled settings w node r.outcome log := by
  refine Logs.perform_bind fun answer => ?_
  cases answer with
  | error e => exact Logs.pure ⟨rfl, .refused e⟩
  | ok _ =>
    exact (drainNode_logs client settings w node).imp fun r log h => ⟨h.1, .drained h.2⟩

theorem uncordon_logs (node : String) : Logs client (uncordon client node) fun result log =>
    (result = .ok () ∧ log = [⟨.setSchedulable node true, .ok ()⟩]) ∨
      ∃ e, result = .error (.uncordonFailed node e) ∧
        log = [⟨.setSchedulable node true, .error e⟩] := by
  refine Logs.perform_bind fun answer => ?_
  cases answer with
  | error e => exact Logs.pure (.inr ⟨e, rfl, rfl⟩)
  | ok _ => exact Logs.pure (.inl ⟨rfl, rfl⟩)

theorem disruptNodes_logs (nodes : List String) : Logs client (disruptNodes client settings w nodes)
    fun r log => Cycles settings w nodes r.1 r.2 log := by
  induction nodes with
  | nil => exact Logs.pure .done
  | cons node nodes ih =>
    refine (nodeRecord_logs client settings w node).bind fun r body h => ?_
    refine (uncordon_logs client node).bind ?_
    rintro _ _ (⟨rfl, rfl⟩ | ⟨e, rfl, rfl⟩)
    · exact ih.bind_pure fun rest log cycles => .next h.1 h.2 cycles
    · exact Logs.pure (.stranded h.1 h.2 e)

theorem drive_logs : Logs client (drive client settings w) fun r log =>
    Driven settings w r.1 r.2 log := by
  refine (waitReady_logs client settings w _).bind fun outcome baseline wait => ?_
  dsimp only
  cases converged : outcome.isConverged with
  | false =>
    rw [converged] at wait
    exact Logs.pure ((List.append_nil baseline).symm ▸ .unready _ wait)
  | true =>
    rw [converged] at wait
    refine Logs.perform_bind fun listed => ?_
    cases listed with
    | error e => exact Logs.pure (.unlisted _ wait e)
    | ok pods =>
      dsimp only
      split
      · next nowhere => exact Logs.pure (.unscheduled _ wait nowhere)
      · next hosted =>
        exact (disruptNodes_logs client settings w _).bind_pure fun r log cycles =>
          .disrupted wait hosted cycles rfl

end Parts

section Facts

variable {settings : DisruptionSettings} {w : WorkloadRef}

theorem nodesOf_ascending (pods : List Pod) : (nodesOf pods).Pairwise (· < ·) :=
  List.pairwise_map.mpr (Dict.ofList_ascending _)

theorem mem_nodesOf {pods : List Pod} {node : String} :
    node ∈ nodesOf pods ↔ ∃ p ∈ pods, p.node = some node := by
  rw [nodesOf, Dict.keys, List.mem_map]
  constructor
  · rintro ⟨q, hq, rfl⟩
    obtain ⟨n, hn, rfl⟩ := List.mem_map.mp (Dict.mem_ofList hq)
    exact List.mem_filterMap.mp hn
  · intro hosts
    have inside : (node, ()) ∈ (pods.filterMap (·.node)).map fun n => (n, ()) :=
      List.mem_map_of_mem (List.mem_filterMap.mpr hosts)
    obtain ⟨_, found⟩ := Option.isSome_iff_exists.mp (Dict.find?_ofList_isSome inside)
    exact ⟨_, Dict.mem_of_find? found, rfl⟩

theorem nodesOf_eq_nil {pods : List Pod} : nodesOf pods = [] ↔ ∀ p ∈ pods, p.node = none := by
  rw [List.eq_nil_iff_forall_not_mem]
  simp only [mem_nodesOf, not_exists, not_and, Option.eq_none_iff_forall_ne_some]
  exact ⟨fun h p hp node => h node p hp, fun h node p hp => h p hp node⟩

def BelongsToDrain (w : WorkloadRef) (node : String) : Call → Prop
  | .readiness v => v = w
  | .nodePods n => n = node
  | .deletePod _ _ => True
  | _ => False

theorem Waited.readings {converged : Bool} {log : List LogEntry} (h : Waited w converged log) :
    ∀ x ∈ log, x.call = .readiness w := by
  cases h with
  | missed misses => exact fun x hx => (misses x hx).1
  | met misses ready =>
    intro x hx
    rcases List.mem_append.mp hx with hx | hx
    · exact (misses x hx).1
    · obtain ⟨r, rfl, -⟩ := ready
      rw [List.mem_singleton.mp hx]

theorem Drained.calls {node : String} {outcome : NodeOutcome} {log : List LogEntry}
    (h : Drained settings w node outcome log) : ∀ x ∈ log, BelongsToDrain w node x.call := by
  have deleted : ∀ {deletes : List LogEntry} {pods : List Pod},
      deletes.map LogEntry.call = deletions pods → ∀ x ∈ deletes, BelongsToDrain w node x.call := by
    intro deletes pods calls x hx
    have inside := calls ▸ List.mem_map_of_mem (f := LogEntry.call) hx
    obtain ⟨p, -, same⟩ := List.mem_map.mp inside
    rw [← same]
    trivial
  intro x hx
  cases h with
  | unlisted e =>
    rw [List.mem_singleton.mp hx]
    rfl
  | stuck pods calls =>
    rcases List.mem_cons.mp hx with rfl | hx
    · rfl
    · exact deleted calls x hx
  | waited pods calls wait =>
    rcases List.mem_cons.mp hx with rfl | hx
    · rfl
    · rcases List.mem_append.mp hx with hx | hx
      · exact deleted calls x hx
      · rw [wait.readings x hx]
        rfl

/-- Between its cordon and its uncordon a node is neither made schedulable nor unschedulable. -/
theorem Handled.calls {node : String} {outcome : NodeOutcome} {log : List LogEntry}
    (h : Handled settings w node outcome log) :
    ∃ answer body, log = ⟨.setSchedulable node false, answer⟩ :: body ∧
      ∀ x ∈ body, BelongsToDrain w node x.call := by
  cases h with
  | refused e => exact ⟨_, [], rfl, by simp⟩
  | drained drain => exact ⟨_, _, rfl, drain.calls⟩

/-- Nothing but cycles of nodes: every call belongs to a drain or is a cordon or an uncordon. -/
theorem Cycles.calls {nodes : List String} {rs : List NodeRecord}
    {result : Except ScenarioError Unit} {log : List LogEntry}
    (h : Cycles settings w nodes rs result log) :
    ∀ x ∈ log, ∃ node, BelongsToDrain w node x.call ∨ ∃ b, x.call = .setSchedulable node b := by
  have handled : ∀ {node : String} {outcome : NodeOutcome} {body : List LogEntry},
      Handled settings w node outcome body → ∀ x ∈ body,
        ∃ node, BelongsToDrain w node x.call ∨ ∃ b, x.call = .setSchedulable node b := by
    intro node outcome body h x hx
    obtain ⟨answer, rest, rfl, calls⟩ := h.calls
    rcases List.mem_cons.mp hx with rfl | hx
    · exact ⟨node, .inr ⟨false, rfl⟩⟩
    · exact ⟨node, .inl (calls x hx)⟩
  induction h with
  | done => simp
  | next _ body _ ih =>
    intro x hx
    rcases List.mem_append.mp hx with hx | hx
    · exact handled body x hx
    · rcases List.mem_cons.mp hx with rfl | hx
      · exact ⟨_, .inr ⟨true, rfl⟩⟩
      · exact ih x hx
  | stranded _ body e =>
    intro x hx
    rcases List.mem_append.mp hx with hx | hx
    · exact handled body x hx
    · rw [List.mem_singleton.mp hx]
      exact ⟨_, .inr ⟨true, rfl⟩⟩

/-- Every record has its cycle in the log. -/
theorem Cycles.cycle_of_mem {nodes : List String} {rs : List NodeRecord}
    {result : Except ScenarioError Unit} {log : List LogEntry}
    (h : Cycles settings w nodes rs result log) {r : NodeRecord} (hr : r ∈ rs) :
    ∃ before body answer after,
      log = before ++ (body ++ ⟨.setSchedulable r.node true, answer⟩ :: after) ∧
      Handled settings w r.node r.outcome body := by
  induction h with
  | done => cases hr
  | @next node nodes q rs result body log named handled _ ih =>
    rcases List.mem_cons.mp hr with rfl | hr
    · subst named
      exact ⟨[], body, .ok (), log, rfl, handled⟩
    · obtain ⟨before, body', answer, after, rfl, handled'⟩ := ih hr
      refine ⟨body ++ ⟨.setSchedulable node true, .ok ()⟩ :: before, body', answer, after, ?_,
        handled'⟩
      rw [List.append_assoc]
      rfl
  | @stranded node nodes q body named handled e =>
    obtain rfl := List.mem_singleton.mp hr
    subst named
    exact ⟨[], body, .error e, [], rfl, handled⟩

end Facts

/-- The log is that of driving a workload from some stage, with these records. -/
def Drives {σ : Type} (client : Client σ) (settings : DisruptionSettings) (w : WorkloadRef)
    (records : List NodeRecord) (log : List LogEntry) : Prop :=
  ∃ t : Timed (Stage σ), client.Answers t.state.cluster log
    (drive client settings w t).2.state.cluster ∧ (drive client settings w t).1.1 = records

section Runs

variable {σ : Type} (client : Client σ) (settings : DisruptionSettings)

/-- The logs of workloads that are driven one after another, up to one that ends the run. -/
inductive Course : List WorkloadRef → List WorkloadReport → List (List LogEntry) →
    Option ScenarioError → Prop
  | finished : Course [] [] [] none
  | reported {w : WorkloadRef} {ws : List WorkloadRef} {records : List NodeRecord}
      {verdict : Verdict} {reason : String} {log : List LogEntry} {reports : List WorkloadReport}
      {logs : List (List LogEntry)} {failure : Option ScenarioError}
      (drives : Drives client settings w records log)
      (driven : Driven settings w records (.ok (verdict, reason)) log)
      (rest : Course ws reports logs failure) :
      Course (w :: ws) (⟨w, verdict, reason, records⟩ :: reports) (log :: logs) failure
  | aborted {w : WorkloadRef} {ws : List WorkloadRef} {records : List NodeRecord}
      {e : ScenarioError} {log : List LogEntry} (drives : Drives client settings w records log)
      (driven : Driven settings w records (.error e) log) :
      Course (w :: ws) [⟨w, .error, e.message, records⟩] [log] (some e)

/-- Between two stages a run took this course: what it reported, and the logs of its workloads. -/
def RunsThrough (ws : List WorkloadRef) (s : Timed (Stage σ)) (done : List WorkloadReport)
    (r : (RunReport × Option ScenarioError) × Timed (Stage σ)) : Prop :=
  ∃ reports logs, Course client settings ws reports logs r.1.2 ∧
    r.1.1 = ⟨done ++ reports, r.1.2.map ScenarioError.message⟩ ∧
    client.Answers s.state.cluster logs.flatten r.2.state.cluster ∧
    r.2.state.reports = s.state.reports ++ reports.map WorkloadReport.scenarioReport

theorem runFrom_course (done : List WorkloadReport) (ws : List WorkloadRef) (s : Timed (Stage σ)) :
    RunsThrough client settings ws s done (runFrom client settings done ws s) := by
  induction ws generalizing done s with
  | nil =>
    refine ⟨[], [], .finished, ?_, .nil _, ?_⟩
    · rw [List.append_nil]
      rfl
    · rw [List.map_nil, List.append_nil]
      rfl
  | cons w ws ih =>
    obtain ⟨log, answered, silent, driven⟩ := drive_logs client settings w s
    have drives : Drives client settings w (drive client settings w s).1.1 log :=
      ⟨s, answered, rfl⟩
    simp only [runFrom, bind, StateT.bind]
    generalize drive client settings w s = made at answered silent driven drives ⊢
    obtain ⟨⟨records, result⟩, after⟩ := made
    cases result with
    | error e =>
      refine ⟨[⟨w, .error, e.message, records⟩], [log], .aborted drives driven, rfl, ?_, ?_⟩
      · rw [List.flatten_singleton]
        exact answered
      · exact congrArg (· ++ _) silent
    | ok verdict =>
      obtain ⟨verdict, reason⟩ := verdict
      let r : WorkloadReport := ⟨w, verdict, reason, records⟩
      obtain ⟨reports, logs, course, report, answered', reported⟩ := ih (done ++ [r])
        { after with state.reports := after.state.reports ++ [r.scenarioReport] }
      refine ⟨r :: reports, log :: logs, .reported drives driven course, ?_, ?_, ?_⟩
      · rw [List.append_assoc] at report
        exact report
      · rw [List.flatten_cons]
        exact answered.append answered'
      · rw [List.map_cons, ← List.singleton_append, ← List.append_assoc, ← silent]
        exact reported

end Runs

end Resilience.Drain
