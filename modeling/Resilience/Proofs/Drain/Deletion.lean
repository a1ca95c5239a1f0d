import Resilience.Proofs.Drain.Course
/-! # Which pods a run deletes

A pod is deleted only while a node of the workload is cordoned, and only if it was listed on that
node and may be deleted. Within such a cycle every pod that may be is deleted, in the order of the
listing.
-/
namespace Resilience.Drain

open ScriptedCluster (client)

def Switches (x : LogEntry) : Prop := ∃ node b, x.call = .setSchedulable node b

/-- A log holds a cycle of a node: its cordon with this answer, what was called from there on, and
the uncordon that follows. -/
structure HasCycle (log before : List LogEntry) (node : String)
    (cordon : Except ClusterError (Call.setSchedulable node false).Reply) (body : List LogEntry) :
    Prop where
  split : ∃ uncordon after, log = before ++ ⟨.setSchedulable node false, cordon⟩ ::
    (body ++ ⟨.setSchedulable node true, uncordon⟩ :: after)
  quiet : ∀ x ∈ body, ¬Switches x

def deletionCalls (log : List LogEntry) : List Call :=
  (log.map LogEntry.call).filter fun
    | .deletePod _ _ => true
    | _ => false

/-- What is called in a cycle: nothing on a node that was not cordoned, else one listing of its
pods, and behind it one deletion of each that may be deleted. -/
inductive DeletesListed (settings : DisruptionSettings) (node : String) :
    Except ClusterError (Call.setSchedulable node false).Reply → List LogEntry → Prop
  | refused (e : ClusterError) : DeletesListed settings node (.error e) []
  | unlisted (e : ClusterError) :
      DeletesListed settings node (.ok ()) [⟨.nodePods node, .error e⟩]
  | listed (pods : List Pod) {rest : List LogEntry}
      (calls : deletionCalls rest = deletions (eligiblePods settings pods))
      (once : ∀ x ∈ rest, ∀ other, x.call ≠ .nodePods other) :
      DeletesListed settings node (.ok ()) (⟨.nodePods node, .ok pods⟩ :: rest)

/-- A deletion lies in the cycle of a cordoned node, and takes a pod that was listed on that node
before and may be deleted. -/
def InCycle (settings : DisruptionSettings) (log first : List LogEntry) (x : LogEntry)
    (node : String) : Prop :=
  ∃ before front back,
    HasCycle log before node (.ok ()) (front ++ x :: back) ∧
    first = before ++ ⟨.setSchedulable node false, .ok ()⟩ :: front ∧
    ∃ listed : List Pod, ⟨.nodePods node, .ok listed⟩ ∈ front ∧
      ∃ p ∈ listed, x.call = .deletePod p.namespaceName p.name ∧
        (settings.skipNodeBound = true → p.isNodeBound = false)

def Hosts (w : WorkloadRef) (log : List LogEntry) (node : String) : Prop :=
  ∃ pods : List Pod, ⟨.workloadPods w, .ok pods⟩ ∈ log ∧ ∃ p ∈ pods, p.node = some node

/-- Every deletion of a workload's log lies in the cycle of a node that hosted the workload, and
every cycle deletes what it listed. -/
structure DeletesEligible (settings : DisruptionSettings) (w : WorkloadRef)
    (log : List LogEntry) : Prop where
  placed : ∀ first x last, log = first ++ x :: last → ∀ ns name, x.call = .deletePod ns name →
    ∃ node, InCycle settings log first x node ∧ Hosts w first node
  cycles : ∀ before node cordon body, HasCycle log before node cordon body →
    DeletesListed settings node cordon body

section Cutting

variable {pre log before body rest : List LogEntry} {s : LogEntry} {node : String}
  {cordon : Except ClusterError (Call.setSchedulable node false).Reply}

theorem behind_first {after : List LogEntry} (other : s ∉ pre)
    (h : pre ++ rest = before ++ s :: after) :
    ∃ more, before = pre ++ more ∧ rest = more ++ s :: after := by
  rcases List.append_eq_append_iff.mp h with later | ⟨more, rfl, tail⟩
  · exact later
  · cases more with
    | nil => exact ⟨[], by simp, tail.symm⟩
    | cons y more =>
      obtain ⟨rfl, -⟩ := List.cons.inj tail
      exact absurd (by simp) other

theorem switch_notMem {schedulable : Bool}
    (answer : Except ClusterError (Call.setSchedulable node schedulable).Reply)
    (quiet : ∀ x ∈ pre, ¬Switches x) : ⟨.setSchedulable node schedulable, answer⟩ ∉ pre :=
  fun inside => quiet _ inside ⟨node, schedulable, rfl⟩

theorem HasCycle.behind (h : HasCycle log before node cordon body) (pre : List LogEntry) :
    HasCycle (pre ++ log) (pre ++ before) node cordon body := by
  obtain ⟨⟨uncordon, after, rfl⟩, quiet⟩ := h
  exact ⟨⟨uncordon, after, (List.append_assoc ..).symm⟩, quiet⟩

theorem HasCycle.of_behind (quiet : ∀ x ∈ pre, ¬Switches x)
    (h : HasCycle (pre ++ log) before node cordon body) :
    ∃ more, HasCycle log more node cordon body := by
  obtain ⟨⟨uncordon, after, split⟩, still⟩ := h
  obtain ⟨more, -, tail⟩ := behind_first (switch_notMem cordon quiet) split
  exact ⟨more, ⟨uncordon, after, tail⟩, still⟩

theorem InCycle.behind {settings : DisruptionSettings} {first : List LogEntry} {x : LogEntry}
    (h : InCycle settings log first x node) (pre : List LogEntry) :
    InCycle settings (pre ++ log) (pre ++ first) x node := by
  obtain ⟨before, front, back, cycle, rfl, listed⟩ := h
  exact ⟨pre ++ before, front, back, cycle.behind pre, (List.append_assoc ..).symm, listed⟩

/-- In a log that begins with a cycle every other cycle lies behind it. -/
theorem HasCycle.first_or_later {settings : DisruptionSettings} {other : String}
    {answer : Except ClusterError (Call.setSchedulable other false).Reply}
    {uncordon : Except ClusterError (Call.setSchedulable other true).Reply}
    {first : List LogEntry} (quiet : ∀ x ∈ first, ¬Switches x)
    (listed : DeletesListed settings other answer first)
    (h : HasCycle (⟨.setSchedulable other false, answer⟩ ::
      (first ++ ⟨.setSchedulable other true, uncordon⟩ :: rest)) before node cordon body) :
    DeletesListed settings node cordon body ∨ ∃ more, HasCycle rest more node cordon body := by
  obtain ⟨⟨again, after, split⟩, still⟩ := h
  -- the cordon is either the very first call, or none of the calls of the first cycle
  rcases List.cons_eq_append_iff.mp split with ⟨rfl, same⟩ | ⟨more, rfl, tail⟩
  · left
    obtain ⟨head, tail⟩ := List.cons.inj same
    cases head
    obtain ⟨more, rfl, ends⟩ := behind_first (switch_notMem again quiet) tail.symm
    cases more with
    | nil => rwa [List.append_nil]
    | cons y more =>
      obtain ⟨rfl, -⟩ := List.cons.inj ends
      exact absurd (by simp) (switch_notMem uncordon still)
  · right
    obtain ⟨more, -, tail⟩ := behind_first (switch_notMem cordon quiet) tail
    rcases List.cons_eq_append_iff.mp tail with ⟨-, same⟩ | ⟨more, rfl, rfl⟩
    · obtain ⟨head, -⟩ := List.cons.inj same
      cases head
    · exact ⟨more, ⟨again, after, rfl⟩, still⟩

end Cutting

section Deletions

variable {settings : DisruptionSettings} {w : WorkloadRef} {node : String}
  {log : List LogEntry}

theorem deletionCalls_append (first log : List LogEntry) :
    deletionCalls (first ++ log) = deletionCalls first ++ deletionCalls log := by
  rw [deletionCalls, List.map_append, List.filter_append]
  rfl

theorem deletionCalls_of_deletions {pods : List Pod} (h : log.map LogEntry.call = deletions pods) :
    deletionCalls log = deletions pods := by
  rw [deletionCalls, h, List.filter_eq_self]
  intro call hc
  obtain ⟨p, -, rfl⟩ := List.mem_map.mp hc
  rfl

theorem deletionCalls_of_readings (h : ∀ x ∈ log, x.call = .readiness w) :
    deletionCalls log = [] := by
  rw [deletionCalls, List.filter_eq_nil_iff]
  intro call hc
  obtain ⟨x, hx, rfl⟩ := List.mem_map.mp hc
  simp [h x hx]

theorem Drained.deletes {outcome : NodeOutcome} (h : Drained settings w node outcome log) :
    DeletesListed settings node (.ok ()) log := by
  have other : ∀ {deletes : List LogEntry} {pods : List Pod},
      deletes.map LogEntry.call = deletions pods →
        ∀ x ∈ deletes, ∀ other, x.call ≠ .nodePods other := by
    intro deletes pods calls x hx node same
    obtain ⟨p, -, deletion⟩ := List.mem_map.mp (calls ▸ List.mem_map_of_mem (f := LogEntry.call) hx)
    cases deletion.trans same
  cases h with
  | unlisted e => exact .unlisted e
  | stuck pods calls => exact .listed pods (deletionCalls_of_deletions calls) (other calls)
  | waited pods calls wait =>
    refine .listed pods ?_ fun x hx => ?_
    · rw [deletionCalls_append, deletionCalls_of_deletions calls,
        deletionCalls_of_readings wait.readings, List.append_nil]
    · rcases List.mem_append.mp hx with hx | hx
      · exact other calls x hx
      · intro node same
        cases (wait.readings x hx).symm.trans same

theorem Handled.deletes {outcome : NodeOutcome} (h : Handled settings w node outcome log) :
    ∃ cordon body, log = ⟨.setSchedulable node false, cordon⟩ :: body ∧
      (∀ x ∈ body, ¬Switches x) ∧ DeletesListed settings node cordon body := by
  cases h with
  | refused e => exact ⟨_, [], rfl, by simp, .refused e⟩
  | drained drain =>
    refine ⟨_, _, rfl, fun x hx => ?_, drain.deletes⟩
    rintro ⟨other, b, switch⟩
    have belongs := drain.calls x hx
    rw [switch] at belongs
    exact belongs

/-- A deletion within a cycle takes a pod that the cycle listed before. -/
theorem DeletesListed.inCycle {front back rest : List LogEntry} {x : LogEntry} {ns name : String}
    {cordon : Except ClusterError (Call.setSchedulable node false).Reply}
    (h : DeletesListed settings node cordon (front ++ x :: back))
    (quiet : ∀ y ∈ front ++ x :: back, ¬Switches y) (deletes : x.call = .deletePod ns name)
    (uncordon : Except ClusterError (Call.setSchedulable node true).Reply) :
    InCycle settings (⟨.setSchedulable node false, cordon⟩ ::
        (front ++ x :: back ++ ⟨.setSchedulable node true, uncordon⟩ :: rest))
      (⟨.setSchedulable node false, cordon⟩ :: front) x node := by
  generalize whole : front ++ x :: back = body at h quiet
  cases h with
  | refused e => simp at whole
  | unlisted e =>
    obtain ⟨-, rfl, -⟩ : front = [] ∧ x = ⟨.nodePods node, .error e⟩ ∧ back = [] := by
      simpa [List.append_eq_singleton_iff] using whole
    cases deletes
  | @listed pods rest calls once =>
    cases front with
    | nil =>
      obtain ⟨rfl, -⟩ := List.cons.inj whole
      cases deletes
    | cons y front =>
      obtain ⟨rfl, rfl⟩ := List.cons.inj whole
      have inside : x.call ∈ deletionCalls (front ++ x :: back) := by
        refine List.mem_filter.mpr ⟨List.mem_map_of_mem (by simp), ?_⟩
        rw [deletes]
      obtain ⟨p, hp, same⟩ := List.mem_map.mp (calls ▸ inside)
      obtain ⟨listed, eligible⟩ := List.mem_filter.mp hp
      refine ⟨[], _, back, ⟨⟨uncordon, _, rfl⟩, quiet⟩, rfl, pods, List.mem_cons_self, p, listed,
        same.symm, fun skip => ?_⟩
      simpa [skip] using eligible

/-- A deletion in a log that begins with a node lies in the cycle of that node, or behind it. -/
theorem Handled.inCycle_or_later {outcome : NodeOutcome} {body rest first last : List LogEntry}
    {x : LogEntry} {ns name : String}
    {uncordon : Except ClusterError (Call.setSchedulable node true).Reply}
    (h : Handled settings w node outcome body)
    (split : body ++ ⟨.setSchedulable node true, uncordon⟩ :: rest = first ++ x :: last)
    (deletes : x.call = .deletePod ns name) :
    InCycle settings (body ++ ⟨.setSchedulable node true, uncordon⟩ :: rest) first x node ∨
      ∃ more, first = body ++ ⟨.setSchedulable node true, uncordon⟩ :: more ∧
        rest = more ++ x :: last := by
  obtain ⟨cordon, calls, rfl, quiet, listed⟩ := h.deletes
  -- a deletion is no cordon and no uncordon, so it lies between the two or behind both
  have switch : ∀ {b : Bool} (answer : Except ClusterError (Call.setSchedulable node b).Reply),
      x ≠ ⟨.setSchedulable node b, answer⟩ := by
    rintro b answer rfl
    cases deletes
  rcases List.append_eq_append_iff.mp split with ⟨more, rfl, tail⟩ | ⟨more, whole, tail⟩
  · rcases List.cons_eq_append_iff.mp tail with ⟨-, same⟩ | ⟨more, rfl, later⟩
    · exact absurd (List.cons.inj same).1 (switch uncordon)
    · exact .inr ⟨more, rfl, later⟩
  · rcases List.cons_eq_append_iff.mp tail with ⟨rfl, same⟩ | ⟨back, rfl, -⟩
    · exact absurd (List.cons.inj same).1.symm (switch uncordon)
    · rcases List.cons_eq_append_iff.mp whole with ⟨rfl, same⟩ | ⟨front, rfl, rfl⟩
      · exact absurd (List.cons.inj same).1 (switch cordon)
      · exact .inl (listed.inCycle quiet deletes uncordon)

theorem Cycles.inCycle {nodes : List String} {rs : List NodeRecord}
    {result : Except ScenarioError Unit} (h : Cycles settings w nodes rs result log)
    {first last : List LogEntry} {x : LogEntry} {ns name : String}
    (split : log = first ++ x :: last) (deletes : x.call = .deletePod ns name) :
    ∃ node ∈ nodes, InCycle settings log first x node := by
  induction h generalizing first with
  | done => simp at split
  | @next node nodes _ _ _ body rest _ handled _ ih =>
    rcases handled.inCycle_or_later split deletes with here | ⟨more, rfl, later⟩
    · exact ⟨node, List.mem_cons_self, here⟩
    · obtain ⟨other, hn, cycle⟩ := ih later
      -- what was found in the rest of the log lies as far behind as the cycle before it is long
      have behind := cycle.behind (body ++ [⟨.setSchedulable node true, .ok ()⟩])
      exact ⟨other, List.mem_cons_of_mem _ hn, by simpa using behind⟩
  | @stranded node nodes _ body _ handled e =>
    rcases handled.inCycle_or_later split deletes with here | ⟨more, -, later⟩
    · exact ⟨node, List.mem_cons_self, here⟩
    · simp at later

theorem Cycles.deletes {nodes : List String} {rs : List NodeRecord}
    {result : Except ScenarioError Unit} (h : Cycles settings w nodes rs result log)
    {before body : List LogEntry}
    {cordon : Except ClusterError (Call.setSchedulable node false).Reply}
    (cycle : HasCycle log before node cordon body) : DeletesListed settings node cordon body := by
  have nowhere : ∀ {before : List LogEntry}, ¬HasCycle [] before node cordon body := by
    rintro before ⟨⟨_, _, split⟩, -⟩
    simp at split
  induction h generalizing before with
  | done => exact absurd cycle nowhere
  | next _ handled _ ih =>
    obtain ⟨_, calls, rfl, quiet, listed⟩ := handled.deletes
    rcases cycle.first_or_later quiet listed with here | ⟨more, later⟩
    · exact here
    · exact ih later
  | stranded _ handled e =>
    obtain ⟨_, calls, rfl, quiet, listed⟩ := handled.deletes
    rcases cycle.first_or_later quiet listed with here | ⟨more, later⟩
    · exact here
    · exact absurd later nowhere

/-- What comes before the cycles of the nodes that a workload was listed on neither deletes nor
switches anything. -/
theorem Cycles.deletesEligible {nodes : List String} {rs : List NodeRecord}
    {result : Except ScenarioError Unit} {pre : List LogEntry}
    (h : Cycles settings w nodes rs result log)
    (still : ∀ x ∈ pre, x.call = .readiness w ∨ x.call = .workloadPods w)
    (hosted : ∀ node ∈ nodes, Hosts w pre node) : DeletesEligible settings w (pre ++ log) := by
  constructor
  · intro first x last split ns name deletes
    have other : x ∉ pre := by
      intro hx
      rcases still x hx with same | same <;> cases same.symm.trans deletes
    obtain ⟨more, rfl, tail⟩ := behind_first other split
    obtain ⟨node, hn, cycle⟩ := h.inCycle tail deletes
    obtain ⟨pods, listed, host⟩ := hosted node hn
    exact ⟨node, cycle.behind pre, pods, List.mem_append_left _ listed, host⟩
  · intro before node cordon body cycle
    have quiet : ∀ x ∈ pre, ¬Switches x := by
      rintro x hx ⟨other, b, switch⟩
      rcases still x hx with same | same <;> cases same.symm.trans switch
    obtain ⟨more, later⟩ := cycle.of_behind quiet
    exact h.deletes later

theorem Driven.deletesEligible {records : List NodeRecord}
    {result : Except ScenarioError (Verdict × String)}
    (h : Driven settings w records result log) : DeletesEligible settings w log := by
  have still : ∀ {converged : Bool} {baseline : List LogEntry}
      (answer : Except ClusterError (Call.workloadPods w).Reply), Waited w converged baseline →
      ∀ x ∈ baseline ++ [⟨.workloadPods w, answer⟩],
        x.call = .readiness w ∨ x.call = .workloadPods w := by
    intro converged baseline answer wait x hx
    rcases List.mem_append.mp hx with hx | hx
    · exact .inl (wait.readings x hx)
    · exact .inr (by rw [List.mem_singleton.mp hx])
  cases h with
  | unready _ wait =>
    rw [← List.append_nil log]
    exact Cycles.done.deletesEligible (fun x hx => .inl (wait.readings x hx)) (by simp)
  | unlisted _ wait e =>
    rw [← List.append_nil (_ ++ _)]
    exact Cycles.done.deletesEligible (still (.error e) wait) (by simp)
  | @unscheduled _ _ wait pods _ =>
    rw [← List.append_nil (_ ++ _)]
    exact Cycles.done.deletesEligible (still (.ok pods) wait) (by simp)
  | @disrupted _ wait pods _ _ _ _ cycles _ _ =>
    rw [List.append_cons]
    refine cycles.deletesEligible (still (.ok pods) wait) fun node hn => ?_
    exact ⟨pods, by simp, mem_nodesOf.mp hn⟩

theorem Course.deletesEligible {σ : Type} {client : Client σ} {ws : List WorkloadRef}
    {reports : List WorkloadReport} {logs : List (List LogEntry)} {failure : Option ScenarioError}
    (h : Course client settings ws reports logs failure) :
    List.Forall₂ (fun r log => Drives client settings r.workload r.nodes log ∧
      DeletesEligible settings r.workload log) reports logs := by
  induction h with
  | finished => exact .nil
  | reported drives driven _ ih => exact .cons ⟨drives, driven.deletesEligible⟩ ih
  | aborted drives driven => exact .cons ⟨drives, driven.deletesEligible⟩ .nil

end Deletions

/-- A run deletes pods only from nodes that it has cordoned and that hosted the workload, and there
those that were listed and may be deleted: each of them once, in the order of the listing. -/
theorem run_deletes_eligible (settings : DisruptionSettings) (ws : List WorkloadRef)
    (s : Timed (Stage ScriptedCluster)) :
    let before := s.state.cluster
    let after := (run client settings ws s).2.state.cluster
    let report := (run client settings ws s).1.1
    ∃ logs : List (List LogEntry),
      after.calls = before.calls ++ logs.flatten.map LogEntry.call ∧
      client.Answers before logs.flatten after ∧
      List.Forall₂ (fun r log => Drives client settings r.workload r.nodes log ∧
        DeletesEligible settings r.workload log) report.workloads logs := by
  intro before after report
  obtain ⟨reports, logs, course, told, answered, -⟩ := runFrom_course client settings [] ws s
  have told : report.workloads = reports := congrArg RunReport.workloads told
  refine ⟨logs, ScriptedCluster.calls_of_answers answered, answered, ?_⟩
  rw [told]
  exact course.deletesEligible

end Resilience.Drain
