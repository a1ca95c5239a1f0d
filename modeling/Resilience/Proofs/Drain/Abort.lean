import Resilience.Proofs.Drain.Course
/-! # How a run ends, and what it reports

A run goes on until a node cannot be uncordoned; that call is its last one. Every workload that was
driven is reported, with the nodes that were touched in ascending order.
-/
namespace Resilience.Drain

open ScriptedCluster (client)

/-- A call that failed to make a node schedulable again. -/
def Strands (x : LogEntry) : Prop := ∃ node e, x = ⟨.setSchedulable node true, .error e⟩

theorem clean_concat {first : List LogEntry} {x : LogEntry} (clean : ∀ y ∈ first, ¬ Strands y)
    (hx : ¬ Strands x) : ∀ y ∈ first ++ [x], ¬ Strands y := by
  intro y hy
  rcases List.mem_append.mp hy with hy | hy
  · exact clean y hy
  · exact List.mem_singleton.mp hy ▸ hx

/-- No node was stranded, or the last call of the log stranded one with this failure. -/
inductive Ends : Option ScenarioError → List LogEntry → Prop
  | well {log : List LogEntry} (clean : ∀ x ∈ log, ¬ Strands x) : Ends none log
  | stranded {log : List LogEntry} (clean : ∀ x ∈ log, ¬ Strands x) (node : String)
      (e : ClusterError) : Ends (some (.uncordonFailed node e))
        (log ++ [⟨.setSchedulable node true, .error e⟩])

namespace Ends

variable {failure : Option ScenarioError} {first log : List LogEntry}

theorem behind (h : Ends failure log) (clean : ∀ x ∈ first, ¬ Strands x) :
    Ends failure (first ++ log) := by
  have both : ∀ {log : List LogEntry}, (∀ x ∈ log, ¬ Strands x) →
      ∀ x ∈ first ++ log, ¬ Strands x := by
    intro log rest x hx
    rcases List.mem_append.mp hx with hx | hx
    · exact clean x hx
    · exact rest x hx
  cases h with
  | well rest => exact .well (both rest)
  | stranded rest node e =>
    rw [← List.append_assoc]
    exact .stranded (both rest) node e

theorem clean (h : Ends none log) : ∀ x ∈ log, ¬ Strands x := by
  cases h with
  | well clean => exact clean

theorem eq_append {e : ScenarioError} (h : Ends (some e) log) : ∃ node source earlier,
    e = .uncordonFailed node source ∧
      log = earlier ++ [⟨.setSchedulable node true, .error source⟩] ∧
      ∀ x ∈ earlier, ¬ Strands x := by
  cases h with
  | @stranded earlier clean node source => exact ⟨node, source, earlier, rfl, rfl, clean⟩

theorem isSome_iff (h : Ends failure log) : failure.isSome ↔ ∃ x ∈ log, Strands x := by
  cases h with
  | well clean => exact iff_of_false (by simp) fun ⟨x, hx, strands⟩ => clean x hx strands
  | stranded _ node e => exact iff_of_true rfl ⟨_, by simp, node, e, rfl⟩

/-- Nothing is called after a node was stranded. -/
theorem last (h : Ends failure log) {earlier later : List LogEntry} {x : LogEntry}
    (split : log = earlier ++ x :: later) (stranded : Strands x) : later = [] := by
  cases h with
  | well clean => exact absurd stranded (clean x (by simp [split]))
  | stranded clean node e =>
    rcases List.eq_nil_or_concat later with rfl | ⟨front, y, rfl⟩
    · rfl
    · rw [List.concat_eq_append, ← List.cons_append, ← List.append_assoc] at split
      rw [List.append_inj_left' split rfl] at clean
      exact absurd stranded (clean x (by simp))

end Ends

section Endings

variable {settings : DisruptionSettings} {w : WorkloadRef}

theorem Waited.clean {converged : Bool} {log : List LogEntry} (h : Waited w converged log) :
    ∀ x ∈ log, ¬ Strands x := by
  rintro x hx ⟨node, e, rfl⟩
  cases h.readings _ hx

theorem Handled.clean {node : String} {outcome : NodeOutcome} {log : List LogEntry}
    (h : Handled settings w node outcome log) : ∀ x ∈ log, ¬ Strands x := by
  obtain ⟨answer, body, rfl, calls⟩ := h.calls
  rintro x hx ⟨other, e, rfl⟩
  rcases List.mem_cons.mp hx with same | hx
  · cases same
  · exact calls _ hx

theorem Cycles.ends {nodes : List String} {rs : List NodeRecord}
    {result : Except ScenarioError Unit} {log : List LogEntry}
    (h : Cycles settings w nodes rs result log) : Ends (failure? result) log := by
  induction h with
  | done => exact .well (by simp)
  | @next _ _ _ _ _ body _ _ handled _ ih =>
    rw [List.append_cons]
    exact ih.behind (clean_concat handled.clean (by rintro ⟨_, _, ⟨⟩⟩))
  | stranded _ handled e => exact .stranded handled.clean _ e

theorem Driven.ends {records : List NodeRecord} {result : Except ScenarioError (Verdict × String)}
    {log : List LogEntry} (h : Driven settings w records result log) :
    Ends (failure? result) log := by
  cases h with
  | unready _ wait => exact .well wait.clean
  | unlisted _ wait e => exact .well (clean_concat wait.clean (by rintro ⟨_, _, ⟨⟩⟩))
  | unscheduled _ wait _ => exact .well (clean_concat wait.clean (by rintro ⟨_, _, ⟨⟩⟩))
  | disrupted wait _ cycles summary =>
    rw [summary, failure?_map, List.append_cons]
    exact cycles.ends.behind (clean_concat wait.clean (by rintro ⟨_, _, ⟨⟩⟩))

theorem Course.ends {σ : Type} {client : Client σ} {ws : List WorkloadRef}
    {reports : List WorkloadReport} {logs : List (List LogEntry)} {failure : Option ScenarioError}
    (h : Course client settings ws reports logs failure) : Ends failure logs.flatten := by
  induction h with
  | finished => exact .well (by simp)
  | reported _ driven _ ih => exact ih.behind driven.ends.clean
  | aborted _ driven =>
    rw [List.flatten_singleton]
    exact driven.ends

end Endings

def isReading (x : LogEntry) : Bool :=
  match x.call with
  | .readiness _ => true
  | _ => false

/-- The readings at the start of a workload's log, before anything else was called. -/
def baseline (log : List LogEntry) : List LogEntry := log.takeWhile isReading

/-- The workload was not ready to begin with, its pods could not be listed, or none of them was on
a node. -/
def Untested (w : WorkloadRef) (log : List LogEntry) : Prop :=
  (∀ x ∈ baseline log, ¬ ShowsReady w x) ∨ (∃ e, ⟨.workloadPods w, .error e⟩ ∈ log) ∨
    ∃ pods : List Pod, ⟨.workloadPods w, .ok pods⟩ ∈ log ∧ ∀ p ∈ pods, p.node = none

/-- These are all the nodes, or those up to the one that the last call stranded. -/
def Covers (nodes touched : List String) (log : List LogEntry) : Prop :=
  (touched = nodes ∧ ∀ x ∈ log, ¬ Strands x) ∨
    ∃ node e earlier done rest, log = earlier ++ [⟨.setSchedulable node true, .error e⟩] ∧
      nodes = done ++ node :: rest ∧ touched = done ++ [node]

/-- The records of a workload are those of the nodes that it was listed on, in ascending order. -/
structure Accounted (r : WorkloadReport) (log : List LogEntry) : Prop where
  untested : Untested r.workload log → r.nodes = [] ∧ r.verdict = .error
  tested : ¬ Untested r.workload log → ∃ (pods : List Pod) (nodes : List String),
    ⟨.workloadPods r.workload, .ok pods⟩ ∈ log ∧ nodes.Pairwise (· < ·) ∧
      (∀ node, node ∈ nodes ↔ ∃ p ∈ pods, p.node = some node) ∧
      Covers nodes (r.nodes.map (·.node)) log

section Reports

variable {settings : DisruptionSettings} {w : WorkloadRef}

theorem Covers.behind {nodes touched : List String} {first log : List LogEntry}
    (h : Covers nodes touched log) (clean : ∀ x ∈ first, ¬ Strands x) :
    Covers nodes touched (first ++ log) := by
  rcases h with ⟨all, rest⟩ | ⟨node, e, earlier, done, rest, rfl, split, touched⟩
  · refine .inl ⟨all, fun x hx => ?_⟩
    rcases List.mem_append.mp hx with hx | hx
    · exact clean x hx
    · exact rest x hx
  · exact .inr ⟨node, e, first ++ earlier, done, rest, (List.append_assoc ..).symm, split, touched⟩

theorem Covers.cons {node : String} {nodes touched : List String} {log : List LogEntry}
    (h : Covers nodes touched log) : Covers (node :: nodes) (node :: touched) log := by
  rcases h with ⟨rfl, clean⟩ | ⟨other, e, earlier, done, rest, rfl, rfl, rfl⟩
  · exact .inl ⟨rfl, clean⟩
  · exact .inr ⟨other, e, earlier, node :: done, rest, rfl, rfl, rfl⟩

theorem Cycles.covers {nodes : List String} {rs : List NodeRecord}
    {result : Except ScenarioError Unit} {log : List LogEntry}
    (h : Cycles settings w nodes rs result log) : Covers nodes (rs.map (·.node)) log := by
  induction h with
  | done => exact .inl ⟨rfl, by simp⟩
  | next named handled _ ih =>
    rw [List.map_cons, named, List.append_cons]
    exact ih.cons.behind (clean_concat handled.clean (by rintro ⟨_, _, ⟨⟩⟩))
  | @stranded node nodes r body named _ e =>
    exact .inr ⟨node, e, body, [], nodes, rfl, rfl, congrArg (fun name => [name]) named⟩

theorem baseline_of_waited {converged : Bool} {log later : List LogEntry}
    (h : Waited w converged log) (other : ∀ x ∈ later.head?, isReading x = false) :
    baseline (log ++ later) = log := by
  have readings : ∀ x ∈ log, isReading x = true := by
    intro x hx
    rw [isReading, h.readings x hx]
  rw [baseline, List.takeWhile_append_of_pos readings]
  cases later with
  | nil => simp
  | cons x later => simp [other x rfl]

/-- The pods of a workload are listed once, behind its baseline. -/
theorem listed_once {log : List LogEntry} {converged : Bool} {nodes : List String}
    {rs : List NodeRecord} {result : Except ScenarioError Unit} {first : List LogEntry}
    {listing : LogEntry} (wait : Waited w converged first)
    (cycles : Cycles settings w nodes rs result log) {v : WorkloadRef}
    {answer : Except ClusterError (Call.workloadPods v).Reply}
    (h : ⟨.workloadPods v, answer⟩ ∈ first ++ listing :: log) :
    ⟨.workloadPods v, answer⟩ = listing := by
  rcases List.mem_append.mp h with h | h
  · cases wait.readings _ h
  · rcases List.mem_cons.mp h with same | h
    · exact same
    · obtain ⟨node, drain | ⟨b, switch⟩⟩ := cycles.calls _ h
      · exact drain.elim
      · cases switch

theorem Driven.accounted {records : List NodeRecord}
    {result : Except ScenarioError (Verdict × String)} {log : List LogEntry}
    (h : Driven settings w records result log) {verdict : Verdict} {reason : String}
    (agrees : ∀ v, result.map Prod.fst = .ok v → verdict = v) :
    Accounted ⟨w, verdict, reason, records⟩ log := by
  cases h with
  | unready _ wait =>
    have missed : Untested w log := by
      refine .inl ?_
      have whole : baseline (log ++ []) = log := baseline_of_waited wait (by simp)
      rw [List.append_nil] at whole
      rw [whole]
      cases wait with
      | missed misses => exact fun x hx => (misses x hx).2
    exact ⟨fun _ => ⟨rfl, agrees _ rfl⟩, fun tested => absurd missed tested⟩
  | unlisted _ wait e =>
    exact ⟨fun _ => ⟨rfl, agrees _ rfl⟩, fun tested => absurd (.inr (.inl ⟨e, by simp⟩)) tested⟩
  | @unscheduled _ _ wait pods nowhere =>
    exact ⟨fun _ => ⟨rfl, agrees _ rfl⟩,
      fun tested => absurd (.inr (.inr ⟨pods, by simp, nodesOf_eq_nil.mp nowhere⟩)) tested⟩
  | @disrupted first wait pods hosted _ result log cycles _ summary =>
    constructor
    · rintro (missed | ⟨e, failed⟩ | ⟨pods', listed, nowhere⟩)
      · rw [baseline_of_waited wait (by simp [isReading])] at missed
        cases wait with
        | met _ ready => exact absurd ready (missed _ (by simp))
      · cases listed_once wait cycles failed
      · cases listed_once wait cycles listed
        exact absurd (nodesOf_eq_nil.mpr nowhere) hosted
    · intro _
      refine ⟨pods, nodesOf pods, by simp, nodesOf_ascending pods, fun _ => mem_nodesOf, ?_⟩
      rw [List.append_cons]
      exact cycles.covers.behind (clean_concat wait.clean (by rintro ⟨_, _, ⟨⟩⟩))

theorem Course.accounted {σ : Type} {client : Client σ} {ws : List WorkloadRef}
    {reports : List WorkloadReport} {logs : List (List LogEntry)} {failure : Option ScenarioError}
    (h : Course client settings ws reports logs failure) :
    List.Forall₂ (fun r log => Drives client settings r.workload r.nodes log ∧ Accounted r log)
      reports logs := by
  induction h with
  | finished => exact .nil
  | reported drives driven _ ih =>
    exact .cons ⟨drives, driven.accounted fun v same => Except.ok.inj same⟩ ih
  | aborted drives driven =>
    exact .cons ⟨drives, driven.accounted fun v same => nomatch same⟩ .nil

/-- Without a failure every workload is reported. With one, those before it are, and the one that
it struck, as an error with its text. -/
theorem Course.workloads {σ : Type} {client : Client σ} {ws : List WorkloadRef}
    {reports : List WorkloadReport} {logs : List (List LogEntry)} {failure : Option ScenarioError}
    (h : Course client settings ws reports logs failure) :
    (failure = none → reports.map (·.workload) = ws) ∧
      ∀ e, failure = some e → reports.map (·.workload) <+: ws ∧
        ∃ r, reports.getLast? = some r ∧ r.verdict = .error ∧ r.reason = e.message := by
  induction h with
  | finished => simp
  | @reported w ws records verdict reason log reports logs failure _ _ _ ih =>
    refine ⟨fun ok => congrArg (w :: ·) (ih.1 ok), fun e struck => ?_⟩
    obtain ⟨before, r, last, error⟩ := ih.2 e struck
    refine ⟨(List.prefix_cons_inj w).mpr before, r, ?_, error⟩
    rw [List.getLast?_cons, last]
    rfl
  | @aborted w ws records e log _ _ =>
    refine ⟨fun ok => (nomatch ok), ?_⟩
    rintro _ ⟨⟩
    exact ⟨⟨ws, rfl⟩, _, rfl, rfl, rfl⟩

end Reports

/-- A run ends early exactly if a node cannot be uncordoned, and then with that call. Its report
and what it handed out tell of every workload that was driven, and of every node of these that was
touched. -/
theorem run_accounts_for_workloads (settings : DisruptionSettings) (ws : List WorkloadRef)
    (s : Timed (Stage ScriptedCluster)) :
    let before := s.state
    let after := (run client settings ws s).2.state
    let report := (run client settings ws s).1.1
    let failure := (run client settings ws s).1.2
    ∃ logs : List (List LogEntry),
      after.cluster.calls = before.cluster.calls ++ logs.flatten.map LogEntry.call ∧
      client.Answers before.cluster logs.flatten after.cluster ∧
      (failure.isSome ↔ ∃ x ∈ logs.flatten, Strands x) ∧
      (∀ earlier x later, logs.flatten = earlier ++ x :: later → Strands x → later = []) ∧
      (∀ e, failure = some e → ∃ node source, e = .uncordonFailed node source ∧
        logs.flatten.getLast? = some ⟨.setSchedulable node true, .error source⟩) ∧
      (failure = none → report.workloads.map (·.workload) = ws ∧ report.aborted = none) ∧
      (∀ e, failure = some e →
        report.aborted = some e.message ∧ report.workloads.map (·.workload) <+: ws ∧
          ∃ r, report.workloads.getLast? = some r ∧ r.verdict = .error ∧ r.reason = e.message) ∧
      List.Forall₂ (fun r log => Drives client settings r.workload r.nodes log ∧ Accounted r log)
        report.workloads logs ∧
      after.reports = before.reports ++ report.workloads.map WorkloadReport.scenarioReport := by
  intro before after report failure
  obtain ⟨reports, logs, course, told, answered, reported⟩ := runFrom_course client settings [] ws s
  have told : report = ⟨reports, failure.map ScenarioError.message⟩ := told
  have ends : Ends failure logs.flatten := course.ends
  obtain ⟨whole, struck⟩ := course.workloads
  refine ⟨logs, ScriptedCluster.calls_of_answers answered, answered, ends.isSome_iff,
    fun earlier x later split strands => ends.last split strands, ?_, ?_, ?_, ?_, ?_⟩
  · intro e failed
    rw [failed] at ends
    obtain ⟨node, source, earlier, same, split, -⟩ := ends.eq_append
    exact ⟨node, source, same, by rw [split, List.getLast?_concat]⟩
  · intro ok
    rw [told, ok]
    exact ⟨whole ok, rfl⟩
  · intro e failed
    rw [told, failed]
    exact ⟨rfl, struck e failed⟩
  · rw [told]
    exact course.accounted
  · rw [told]
    exact reported

end Resilience.Drain
