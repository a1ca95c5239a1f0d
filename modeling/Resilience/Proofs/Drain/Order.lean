import Resilience.Proofs.Drain.Share
/-! # Independent workloads

Workloads without a common node do not see each other. In which order they are driven shows in the
order of their reports and in nothing else.
-/
namespace Resilience.Drain

open ScriptedCluster (client)

/-- What driving a workload can touch. -/
def Share.of (c : ScriptedCluster) (w : WorkloadRef) : Share :=
  let nodes := (c.pods.filter fun p => p.1 = some w).filterMap (·.2.node)
  ⟨w, nodes, (c.pods.filter fun p => p.1 = some w ∨ ∃ node ∈ nodes, p.2.node = some node).map
    (·.2.id)⟩

/-- The workloads differ, no two pods have the same names, no node hosts pods of both workloads, and
every node can be made schedulable again. -/
structure Independent (c : ScriptedCluster) (w₁ w₂ : WorkloadRef) : Prop where
  different : w₁ ≠ w₂
  named : (c.pods.map (·.2.id)).Nodup
  apart : ∀ p ∈ c.pods, ∀ q ∈ c.pods, p.1 = some w₁ → q.1 = some w₂ →
    p.2.node = none ∨ p.2.node ≠ q.2.node
  returnable : c.uncordonFailures = []

structure Share.Apart (a b : Share) : Prop where
  workload : a.workload ≠ b.workload
  nodes : ∀ node ∈ a.nodes, node ∉ b.nodes
  pods : ∀ p, a.Has p → ¬ b.Has p

section Shares

variable {c : ScriptedCluster} {w w₁ w₂ : WorkloadRef}

theorem Share.mem_nodes_of {node : String} :
    node ∈ (Share.of c w).nodes ↔ ∃ p ∈ c.pods, p.1 = some w ∧ p.2.node = some node := by
  simp [Share.of, List.mem_filterMap, and_assoc]

theorem Share.has_of {p : Option WorkloadRef × Pod} : (Share.of c w).Has p ↔
    ∃ q ∈ c.pods, (q.1 = some w ∨ ∃ node ∈ (Share.of c w).nodes, q.2.node = some node) ∧
      q.2.id = p.2.id := by
  simp [Share.of, Share.Has, List.mem_map, List.mem_filter, and_assoc]

theorem Share.covers_of (c : ScriptedCluster) (w : WorkloadRef) : (Share.of c w).Covers c := by
  constructor
  · intro p hp own
    refine ⟨Share.has_of.mpr ⟨p, hp, .inl own, rfl⟩, fun node here => ?_⟩
    exact Share.mem_nodes_of.mpr ⟨p, hp, own, here⟩
  · intro p hp node hn here
    exact Share.has_of.mpr ⟨p, hp, .inr ⟨node, hn, here⟩, rfl⟩

theorem Independent.shares (h : Independent c w₁ w₂) : (Share.of c w₁).Apart (Share.of c w₂) := by
  have nodes : ∀ node ∈ (Share.of c w₁).nodes, node ∉ (Share.of c w₂).nodes := by
    intro node hn hn'
    obtain ⟨p, hp, own, here⟩ := Share.mem_nodes_of.mp hn
    obtain ⟨q, hq, own', here'⟩ := Share.mem_nodes_of.mp hn'
    rcases h.apart p hp q hq own own' with unscheduled | other
    · rw [here] at unscheduled
      cases unscheduled
    · exact other (here.trans here'.symm)
  refine ⟨h.different, nodes, fun p hp hp' => ?_⟩
  obtain ⟨q, hq, mine, named⟩ := Share.has_of.mp hp
  obtain ⟨q', hq', yours, named'⟩ := Share.has_of.mp hp'
  -- a pod is known by its names, so that one pod would be in both shares
  obtain rfl := List.inj_on_of_nodup_map h.named hq hq' (named.trans named'.symm)
  rcases mine with own | ⟨node, hn, here⟩
  · rcases yours with own' | ⟨node', hn', here'⟩
    · exact h.different (Option.some.inj (own.symm.trans own'))
    · exact nodes node' (Share.mem_nodes_of.mpr ⟨q, hq, own, here'⟩) hn'
  · rcases yours with own' | ⟨node', hn', here'⟩
    · exact nodes node hn (Share.mem_nodes_of.mpr ⟨q, hq, own', here⟩)
    · obtain rfl := Option.some.inj (here.symm.trans here')
      exact nodes node hn hn'

theorem Share.Apart.symm {a b : Share} (h : a.Apart b) : b.Apart a :=
  ⟨h.workload.symm, fun node hb ha => h.nodes node ha hb, fun p hb ha => h.pods p ha hb⟩

end Shares

section Frames

variable {a b : Share} {c c' : ScriptedCluster}

theorem Share.Within.mem_iff (h : b.Within c c') {p : Option WorkloadRef × Pod}
    (outside : ¬ b.Has p) : p ∈ c'.pods ↔ p ∈ c.pods := by
  have same : (p ∈ c'.pods.filter fun p => ¬ b.Has p) ↔ p ∈ c.pods.filter fun p => ¬ b.Has p := by
    rw [h.pods]
  simpa [outside] using same

/-- What changes in one share does not show in another. -/
theorem Share.Within.alike (h : b.Within c c') (apart : a.Apart b) : a.Alike c c' := by
  refine ⟨h.readiness _ apart.workload, ?_, fun node hn => h.schedulable node (apart.nodes node hn)⟩
  have outside : ∀ p, a.Has p → ¬ b.Has p := apart.pods
  rw [Share.filter_eq_of_imp fun p _ => outside p, h.pods,
    ← Share.filter_eq_of_imp fun p _ => outside p]

end Frames

/-- Both shares are as they were left by drives of their own, and nothing else has changed. -/
structure Joins (a b : Share) (before left right after : ScriptedCluster) : Prop where
  left : a.Alike left after
  right : b.Alike right after
  rest : ∀ p, ¬ a.Has p → ¬ b.Has p → (p ∈ after.pods ↔ p ∈ before.pods)
  fewer : after.pods.Sublist before.pods
  schedulable : ∀ node, node ∉ a.nodes → node ∉ b.nodes →
    after.isSchedulable node = before.isSchedulable node

theorem filter_mem_eq_of_sublist {α : Type} [DecidableEq α] {l part : List α} (distinct : l.Nodup)
    (h : part.Sublist l) : l.filter (· ∈ part) = part := by
  induction h with
  | slnil => rfl
  | @cons part l x h ih =>
    obtain ⟨new, distinct⟩ := List.nodup_cons.mp distinct
    rw [List.filter_cons_of_neg (by simpa using fun hx => new (h.subset hx)), ih distinct]
  | @cons_cons part l x h ih =>
    obtain ⟨new, distinct⟩ := List.nodup_cons.mp distinct
    rw [List.filter_cons_of_pos (by simp)]
    refine congrArg (List.cons x) ((List.filter_congr ?_).trans (ih distinct))
    intro y hy
    have other : y ≠ x := by
      rintro rfl
      exact new hy
    simp [other]

namespace Joins

variable {a b : Share} {before left right after after' : ScriptedCluster}

theorem symm (h : Joins a b before left right after) : Joins b a before right left after :=
  ⟨h.right, h.left, fun p hb ha => h.rest p ha hb, h.fewer,
    fun node hb ha => h.schedulable node ha hb⟩

/-- The drives of their own tell where everything is in the end. -/
theorem unique (h : Joins a b before left right after) (k : Joins a b before left right after')
    (distinct : before.pods.Nodup) : after'.pods = after.pods ∧
      ∀ node, after'.isSchedulable node = after.isSchedulable node := by
  have first := h.left.symm.trans k.left
  have second := h.right.symm.trans k.right
  constructor
  · rw [← filter_mem_eq_of_sublist distinct h.fewer, ← filter_mem_eq_of_sublist distinct k.fewer]
    apply List.filter_congr
    intro p _
    refine decide_eq_decide.mpr ?_
    -- a pod of neither share stands or falls with what was there before
    by_cases mine : a.Has p
    · simpa [mine] using congrArg (p ∈ ·) first.pods
    · by_cases yours : b.Has p
      · simpa [yours] using congrArg (p ∈ ·) second.pods
      · rw [h.rest p mine yours, k.rest p mine yours]
  · intro node
    by_cases mine : node ∈ a.nodes
    · exact first.schedulable node mine
    · by_cases yours : node ∈ b.nodes
      · exact second.schedulable node yours
      · rw [h.schedulable node mine yours, k.schedulable node mine yours]

end Joins

section Drives

variable (settings : DisruptionSettings)

/-- A drive behind one of another share comes to what it would have come to by itself. -/
theorem drive_behind {a b : Share} (apart : a.Apart b) {s t : Timed (Stage ScriptedCluster)}
    (covers : a.Covers s.state.cluster) (covers' : b.Covers s.state.cluster)
    (behind : t.state.cluster = (drive client settings a.workload s).2.state.cluster) :
    (drive client settings b.workload t).1 = (drive client settings b.workload s).1 ∧
      Joins a b s.state.cluster (drive client settings a.workload s).2.state.cluster
        (drive client settings b.workload s).2.state.cluster
        (drive client settings b.workload t).2.state.cluster := by
  have first := Share.drive_within settings covers
  rw [← behind] at first ⊢
  have later : b.Covers t.state.cluster := covers'.sublist first.fewer
  obtain ⟨same, beside⟩ := Share.drive_agrees ⟨first.setup, covers', later⟩ settings s t
    ⟨first.alike apart.symm, refl _, refl _⟩
  have second := beside.second
  refine ⟨same.symm, second.alike apart, beside.alike, ?rest, ?fewer, ?schedulable⟩
  case rest =>
    intro p mine yours
    rw [second.mem_iff yours, first.mem_iff mine]
  case fewer => exact second.fewer.trans first.fewer
  case schedulable =>
    intro node mine yours
    rw [second.schedulable node yours, first.schedulable node mine]

/-- A drive ends with a report where every node can be made schedulable again. -/
theorem drive_ok (w : WorkloadRef) {s : Timed (Stage ScriptedCluster)}
    (returnable : s.state.cluster.uncordonFailures = []) :
    ∃ r : WorkloadReport, r.workload = w ∧
      (drive client settings w s).1 = (r.nodes, .ok (r.verdict, r.reason)) := by
  obtain ⟨nodes, bracketed⟩ := drive_brackets settings w s
  generalize drive client settings w s = driven at bracketed ⊢
  obtain ⟨⟨records, e | ⟨verdict, reason⟩⟩, after⟩ := driven
  · obtain ⟨node, -, -, -, refused, -⟩ := bracketed.stranded e rfl
    change node ∈ s.state.cluster.uncordonFailures at refused
    rw [returnable] at refused
    cases refused
  · exact ⟨⟨w, verdict, reason, records⟩, rfl, rfl⟩

/-- A workload whose drive ended with a report is followed by the others. -/
theorem runFrom_cons {r : WorkloadReport} {s : Timed (Stage ScriptedCluster)}
    (driven : (drive client settings r.workload s).1 = (r.nodes, .ok (r.verdict, r.reason)))
    (done : List WorkloadReport) (ws : List WorkloadRef) :
    ∃ t : Timed (Stage ScriptedCluster),
      t.state.cluster = (drive client settings r.workload s).2.state.cluster ∧
        runFrom client settings done (r.workload :: ws) s =
          runFrom client settings (done ++ [r]) ws t := by
  simp only [runFrom, bind, StateT.bind]
  generalize drive client settings r.workload s = ended at driven ⊢
  obtain ⟨_, after⟩ := ended
  cases driven
  exact ⟨(Scenario.report r.scenarioReport after).2, rfl, rfl⟩

/-- Two drives that end with reports, the second whatever the clock and the reports show. -/
theorem run_pair {r₁ r₂ : WorkloadReport} {s : Timed (Stage ScriptedCluster)}
    (first : (drive client settings r₁.workload s).1 = (r₁.nodes, .ok (r₁.verdict, r₁.reason)))
    (second : ∀ t : Timed (Stage ScriptedCluster),
      t.state.cluster = (drive client settings r₁.workload s).2.state.cluster →
        (drive client settings r₂.workload t).1 = (r₂.nodes, .ok (r₂.verdict, r₂.reason))) :
    (run client settings [r₁.workload, r₂.workload] s).1 = (⟨[r₁, r₂], none⟩, none) ∧
      ∃ t : Timed (Stage ScriptedCluster),
        t.state.cluster = (drive client settings r₁.workload s).2.state.cluster ∧
          (run client settings [r₁.workload, r₂.workload] s).2.state.cluster =
            (drive client settings r₂.workload t).2.state.cluster := by
  obtain ⟨t, behind, ran⟩ := runFrom_cons settings first [] [r₂.workload]
  obtain ⟨t', behind', ran'⟩ := runFrom_cons settings (second t behind) [r₁] []
  have all : run client settings [r₁.workload, r₂.workload] s = ((⟨[r₁, r₂], none⟩, none), t') :=
    ran.trans ran'
  rw [all]
  exact ⟨rfl, t, behind, behind'⟩

/-- Two independent workloads come to the same in either order: each to the same report, and the
cluster to the same pods and the same schedulable nodes. -/
theorem run_pair_commutes (w₁ w₂ : WorkloadRef) (s : Timed (Stage ScriptedCluster))
    (independent : Independent s.state.cluster w₁ w₂) :
    let forth := run client settings [w₁, w₂] s
    let back := run client settings [w₂, w₁] s
    ∃ r₁ r₂ : WorkloadReport, r₁.workload = w₁ ∧ r₂.workload = w₂ ∧
      forth.1 = (⟨[r₁, r₂], none⟩, none) ∧ back.1 = (⟨[r₂, r₁], none⟩, none) ∧
      back.2.state.cluster.pods = forth.2.state.cluster.pods ∧
      ∀ node, back.2.state.cluster.isSchedulable node =
        forth.2.state.cluster.isSchedulable node := by
  intro forth back
  have apart := independent.shares
  have covers := Share.covers_of s.state.cluster w₁
  have covers' := Share.covers_of s.state.cluster w₂
  obtain ⟨r₁, rfl, first⟩ := drive_ok settings w₁ independent.returnable
  obtain ⟨r₂, rfl, second⟩ := drive_ok settings w₂ independent.returnable
  obtain ⟨forthReport, t, behind, forthCluster⟩ := run_pair settings first
    fun t behind => (drive_behind settings apart covers covers' behind).1.trans second
  obtain ⟨backReport, t', behind', backCluster⟩ := run_pair settings second
    fun t behind => (drive_behind settings apart.symm covers' covers behind).1.trans first
  have joined := (drive_behind settings apart covers covers' behind).2
  have joined' := (drive_behind settings apart.symm covers' covers behind').2.symm
  refine ⟨r₁, r₂, rfl, rfl, forthReport, backReport, ?_⟩
  rw [backCluster, forthCluster]
  exact joined.unique joined' independent.named.of_map

end Drives

section Database

open Settings (briefSettings shop lostPod)

def database : WorkloadRef := ⟨"shop", "db", .statefulSet⟩

/-- Beside the workload that loses its pod there is one on another node that keeps its own. -/
def keptPod : Timed (Stage ScriptedCluster) :=
  ⟨{}, ⟨{ (lostPod.state.cluster.scriptReadiness database [.ok (.settled 1)]).addPod database "db-0"
    "worker-2" with podDeleteFailures := ["db-0"] }, []⟩⟩

theorem run_pair_commutes_database :
    Independent keptPod.state.cluster shop database ∧
      (run client briefSettings.disruption [shop, database] keptPod).1.1.workloads.map
        (·.verdict) = [.fail, .error] ∧
      (run client briefSettings.disruption [database, shop] keptPod).1.1.workloads =
        (run client briefSettings.disruption [shop, database] keptPod).1.1.workloads.reverse := by
  have independent : Independent keptPod.state.cluster shop database := by
    constructor <;> decide +kernel
  obtain ⟨r₁, r₂, -, -, forth, back, -⟩ :=
    run_pair_commutes briefSettings.disruption shop database keptPod independent
  refine ⟨independent, by decide +kernel, ?_⟩
  rw [forth, back]
  rfl

end Database

end Resilience.Drain
