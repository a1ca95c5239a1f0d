import Mathlib.Data.List.Nodup
import Resilience.Proofs.Drain.Abort
import Resilience.Proofs.Drain.Deletion
/-! # What a passed workload has shown

A workload passes exactly if its log shows that it was ready before any node was taken from it, and
again after the pods of every cordoned node had been deleted, before that node was returned.
-/
namespace Resilience.Drain

open ScriptedCluster (client)

/-- The log shows a workload ready after the last deletion of a node's cycle, and before the node
was uncordoned. -/
def ShowsRecovery (w : WorkloadRef) (node : String) (log : List LogEntry) : Prop :=
  ∃ before body answer after,
    log = before ++ ⟨.setSchedulable node false, .ok ()⟩ ::
      (body ++ ⟨.setSchedulable node true, answer⟩ :: after) ∧
    (∀ x ∈ body, ∀ other b, x.call ≠ .setSchedulable other b) ∧
    ∃ first ready last, body = first ++ ready :: last ∧ ShowsReady w ready ∧
      ∀ x ∈ last, ∀ ns name, x.call ≠ .deletePod ns name

structure Certified (r : WorkloadReport) (log : List LogEntry) : Prop where
  /-- The workload was shown ready before the first cordon. -/
  ready : ∃ before x after, log = before ++ x :: after ∧ ShowsReady r.workload x ∧
    ∀ y ∈ before, ∀ node, y.call ≠ .setSchedulable node false
  listed : ∃ pods, ⟨.workloadPods r.workload, .ok pods⟩ ∈ log
  /-- Every node of the listed pods has one record. -/
  complete : ∀ pods : List Pod, ⟨.workloadPods r.workload, .ok pods⟩ ∈ log →
    ∀ p ∈ pods, ∀ node, p.node = some node → r.nodes.countP (·.node = node) = 1
  tested : ∃ n ∈ r.nodes, n.outcome = .recovered
  outcomes : ∀ n ∈ r.nodes, n.outcome = .recovered ∨ n.outcome = .cordonFailed
  recovery : ∀ n ∈ r.nodes, n.outcome = .recovered → ShowsRecovery r.workload n.node log

section Certificates

variable {settings : DisruptionSettings} {w : WorkloadRef}

/-- A workload passes if no node failed it, no drain was left undone, and a node was taken. -/
theorem summarize_pass_iff {records : List NodeRecord} :
    (summarize w records).1 = .pass ↔
      (∃ n ∈ records, n.outcome = .recovered) ∧
        ∀ n ∈ records, n.outcome = .recovered ∨ n.outcome = .cordonFailed := by
  have spoiled : ∀ {bad : NodeOutcome}, bad ≠ .recovered → bad ≠ .cordonFailed →
      (records.any fun n => n.outcome == bad) = true →
        ¬ ∀ n ∈ records, n.outcome = .recovered ∨ n.outcome = .cordonFailed := by
    intro bad recovered refused found good
    obtain ⟨n, hn, outcome⟩ := List.any_eq_true.mp found
    rcases good n hn with same | same
    · exact recovered ((beq_iff_eq.mp outcome).symm.trans same)
    · exact refused ((beq_iff_eq.mp outcome).symm.trans same)
  unfold summarize
  dsimp only
  split
  · next failed => exact iff_of_false (by simp) fun h => spoiled (by simp) (by simp) failed h.2
  · next kept =>
    split
    · next undone => exact iff_of_false (by simp) fun h => spoiled (by simp) (by simp) undone h.2
    · next done =>
      have good : ∀ n ∈ records, n.outcome = .recovered ∨ n.outcome = .cordonFailed := by
        intro n hn
        have unfailed := fun bad => kept (List.any_eq_true.mpr ⟨n, hn, bad⟩)
        have drained := fun bad => done (List.any_eq_true.mpr ⟨n, hn, bad⟩)
        cases outcome : n.outcome <;> simp_all
      split
      · next refused =>
        refine iff_of_false (by simp) fun ⟨⟨n, hn, outcome⟩, _⟩ => ?_
        have stayed := beq_iff_eq.mp (List.all_eq_true.mp refused n hn)
        exact absurd (outcome.symm.trans stayed) (by simp)
      · next taken =>
        refine iff_of_true rfl ⟨?_, good⟩
        by_contra none
        refine taken (List.all_eq_true.mpr fun n hn => ?_)
        exact beq_iff_eq.mpr ((good n hn).resolve_left fun same => none ⟨n, hn, same⟩)

theorem Handled.showsRecovery {node : String} {body : List LogEntry}
    (h : Handled settings w node .recovered body) (before : List LogEntry)
    (answer : Except ClusterError (Call.setSchedulable node true).Reply) (after : List LogEntry) :
    ShowsRecovery w node
      (before ++ (body ++ ⟨.setSchedulable node true, answer⟩ :: after)) := by
  generalize recovered : NodeOutcome.recovered = outcome at h
  cases h with
  | refused e => cases recovered
  | @drained _ log drain =>
    refine ⟨before, log, answer, after, rfl, ?_, ?_⟩
    · intro x hx other b switch
      have belongs := drain.calls x hx
      rw [switch] at belongs
      exact belongs
    · cases drain with
      | unlisted e => cases recovered
      | stuck pods calls => cases recovered
      | @waited pods deletes readings converged calls wait =>
        cases wait with
        | missed _ => cases recovered
        | @met misses x missed ready =>
          refine ⟨⟨.nodePods node, .ok pods⟩ :: (deletes ++ misses), x, [], ?_, ready, by simp⟩
          simp

/-- A drive that ended without a failure passes by the outcomes of its nodes. -/
theorem Driven.pass_iff {records : List NodeRecord} {verdict : Verdict} {reason : String}
    {log : List LogEntry} (h : Driven settings w records (.ok (verdict, reason)) log) :
    verdict = .pass ↔ (∃ n ∈ records, n.outcome = .recovered) ∧
      ∀ n ∈ records, n.outcome = .recovered ∨ n.outcome = .cordonFailed := by
  generalize same : Except.ok (verdict, reason) = outcome at h
  cases h with
  | unready _ _ | unlisted _ _ _ | unscheduled _ _ _ =>
    cases same
    exact iff_of_false (by simp) (by simp)
  | @disrupted _ _ _ _ _ result _ _ _ summary =>
    cases result with
    | error e => cases same.trans summary
    | ok _ =>
      have verdict_eq := congrArg Prod.fst (Except.ok.inj (same.trans summary))
      rw [← summarize_pass_iff, ← verdict_eq]

theorem Cycles.complete {nodes : List String} {rs : List NodeRecord} {log : List LogEntry}
    (h : Cycles settings w nodes rs (.ok ()) log) : rs.map (·.node) = nodes := by
  rcases h.covers with ⟨all, -⟩ | ⟨node, e, earlier, done, rest, rfl, -, -⟩
  · exact all
  · exact absurd ⟨node, e, rfl⟩ (h.ends.clean _ (by simp))

/-- What the log of a workload bears out, going by the outcomes of its nodes. -/
theorem Driven.certified {records : List NodeRecord} {verdict : Verdict} {reason : String}
    {log : List LogEntry} (h : Driven settings w records (.ok (verdict, reason)) log)
    (tested : ∃ n ∈ records, n.outcome = .recovered)
    (outcomes : ∀ n ∈ records, n.outcome = .recovered ∨ n.outcome = .cordonFailed) :
    Certified ⟨w, verdict, reason, records⟩ log := by
  generalize same : Except.ok (verdict, reason) = outcome at h
  cases h with
  | unready _ _ | unlisted _ _ _ | unscheduled _ _ _ => exact absurd tested (by simp)
  | @disrupted first wait pods hosted _ result log cycles _ summary =>
    have all : records.map (·.node) = nodesOf pods := by
      cases result with
      | error e => cases same.trans summary
      | ok _ => exact cycles.complete
    obtain ⟨misses, x, rfl, missed, ready⟩ :
        ∃ misses x, first = misses ++ [x] ∧ (∀ y ∈ misses, Misses w y) ∧ ShowsReady w x := by
      cases wait with
      | met missed ready => exact ⟨_, _, rfl, missed, ready⟩
    refine ⟨⟨misses, x, ⟨.workloadPods w, .ok pods⟩ :: log, by simp, ready, ?_⟩,
      ⟨pods, by simp⟩, ?_, tested, outcomes, ?_⟩
    · intro y hy node cordon
      cases (missed y hy).1.symm.trans cordon
    · intro pods' listed p hp node host
      cases listed_once wait cycles listed
      have once : (nodesOf pods).count node = 1 :=
        List.count_eq_one_of_mem ((nodesOf_ascending pods).imp ne_of_lt)
          (mem_nodesOf.mpr ⟨p, hp, host⟩)
      rw [← all, List.count, List.countP_map] at once
      exact once
    · intro n hn recovered
      obtain ⟨before, body, answer, after, rfl, handled⟩ := cycles.cycle_of_mem hn
      rw [recovered] at handled
      have shown := handled.showsRecovery
        (misses ++ [x] ++ ⟨.workloadPods w, .ok pods⟩ :: before) answer after
      rw [List.append_assoc, List.cons_append] at shown
      exact shown

theorem Course.pass_iff {σ : Type} {client : Client σ} {ws : List WorkloadRef}
    {reports : List WorkloadReport} {logs : List (List LogEntry)} {failure : Option ScenarioError}
    (h : Course client settings ws reports logs failure) :
    List.Forall₂ (fun r log => Drives client settings r.workload r.nodes log ∧
      (r.verdict = .pass ↔ Certified r log ∧ ∀ x ∈ log, ¬ Strands x)) reports logs := by
  induction h with
  | finished => exact .nil
  | reported drives driven _ ih =>
    refine .cons ⟨drives, ?_⟩ ih
    rw [driven.pass_iff]
    constructor
    · rintro ⟨tested, outcomes⟩
      exact ⟨driven.certified tested outcomes, driven.ends.clean⟩
    · rintro ⟨certified, -⟩
      exact ⟨certified.tested, certified.outcomes⟩
  | aborted drives driven =>
    refine .cons ⟨drives, iff_of_false (by simp) fun ⟨_, clean⟩ => ?_⟩ .nil
    obtain ⟨x, hx, stranded⟩ := driven.ends.isSome_iff.mp rfl
    exact clean x hx stranded

end Certificates

/-- A workload of a run passes exactly if its log bears that out and none of its nodes was left
unschedulable. -/
theorem run_passes_iff_certified (settings : DisruptionSettings) (ws : List WorkloadRef)
    (s : Timed (Stage ScriptedCluster)) :
    let before := s.state.cluster
    let after := (run client settings ws s).2.state.cluster
    let report := (run client settings ws s).1.1
    ∃ logs : List (List LogEntry),
      after.calls = before.calls ++ logs.flatten.map LogEntry.call ∧
      client.Answers before logs.flatten after ∧
      List.Forall₂ (fun r log => Drives client settings r.workload r.nodes log ∧
        (r.verdict = .pass ↔ Certified r log ∧ ∀ x ∈ log, ¬ Strands x)) report.workloads logs := by
  intro before after report
  obtain ⟨reports, logs, course, told, answered, -⟩ := runFrom_course client settings [] ws s
  have told : report.workloads = reports := congrArg RunReport.workloads told
  refine ⟨logs, ScriptedCluster.calls_of_answers answered, answered, ?_⟩
  rw [told]
  exact course.pass_iff

section Recovering

def storefront : WorkloadRef := ⟨"shop", "storefront", .deployment⟩

/-- A workload that is not yet ready when it is first looked at after it lost its pod. An agent that
belongs to the node runs beside the pod. -/
def recovering : Timed (Stage ScriptedCluster) := ⟨{}, ⟨{ ScriptedCluster.initial with
  readiness := [(storefront, [.ok (.settled 1), .ok (.degraded 1 0), .ok (.settled 1)])]
  pods := [(some storefront, ⟨"shop", "storefront-1", some "n1", some "ReplicaSet", false⟩),
    (none, ⟨"shop", "agent", some "n1", some "DaemonSet", false⟩)] }, []⟩⟩

def recoveringRecord : NodeRecord :=
  recoveryRecord storefront "n1" ⟨["storefront-1"], []⟩ (.ofMinutes 1) (.converged (.ofSeconds 1) 2)

def recoveringReport : WorkloadReport :=
  ⟨storefront, .pass, recoveringRecord.reason, [recoveringRecord]⟩

/-- The workload passes, and the log of its run, in which its pod was deleted, bears that out. -/
theorem run_recovering :
    let r := run client {} [storefront] recovering
    r.1 = (⟨[recoveringReport], none⟩, none) ∧
      r.2.state.cluster.deletedPods = ["storefront-1"] ∧
      ∃ log, r.2.state.cluster.calls = log.map LogEntry.call ∧
        client.Answers recovering.state.cluster log r.2.state.cluster ∧
        Drives client {} storefront [recoveringRecord] log ∧
        Certified recoveringReport log ∧ (∀ x ∈ log, ¬Strands x) ∧
        Accounted recoveringReport log ∧ DeletesEligible {} storefront log := by
  have told : (run client {} [storefront] recovering).1 = (⟨[recoveringReport], none⟩, none) := by
    decide +kernel
  have deleted : (run client {} [storefront] recovering).2.state.cluster.deletedPods =
      ["storefront-1"] := by decide +kernel
  refine ⟨told, deleted, ?_⟩
  obtain ⟨reports, logs, course, report, answered, -⟩ :=
    runFrom_course client {} [] [storefront] recovering
  rw [run] at told ⊢
  rw [told] at course report
  have reported : [recoveringReport] = reports := congrArg RunReport.workloads report
  have calls := ScriptedCluster.calls_of_answers answered
  cases course with
  | @reported _ _ records verdict reason log _ _ _ drives driven rest =>
    cases rest
    obtain ⟨same, -⟩ := List.cons.inj reported
    have records_eq : [recoveringRecord] = records := congrArg WorkloadReport.nodes same
    rw [List.flatten_singleton] at answered calls
    have outcomes : verdict = .pass := (congrArg WorkloadReport.verdict same).symm
    obtain ⟨tested, good⟩ := driven.pass_iff.mp outcomes
    rw [records_eq, same]
    exact ⟨log, calls, answered, drives, driven.certified tested good, driven.ends.clean,
      driven.accounted fun _ => Except.ok.inj, driven.deletesEligible⟩

end Recovering
end Resilience.Drain
