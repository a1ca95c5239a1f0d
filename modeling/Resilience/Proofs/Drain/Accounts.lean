import Resilience.Proofs.Scenario.Log
import Resilience.Scenario.Drain
/-! # What becomes of the pods of a node

Each pod that a drain has to delete is called for once, in order, and counts as the answer says: it
is deleted, it refuses, or it is gone already. The record of the node tells which, and whether there
was anything to wait for.
-/
namespace Resilience.Drain

/-- What was deleted and what refused, by the answers to the deletion of pods one after another. A
pod that is gone already is neither. -/
inductive Sorted : List Pod → List LogEntry → List String → List String → Prop
  | nil : Sorted [] [] [] []
  | deleted {p : Pod} {pods : List Pod} {log : List LogEntry} {gone stuck : List String}
      (rest : Sorted pods log gone stuck) :
      Sorted (p :: pods) (⟨.deletePod p.namespaceName p.name, .ok ()⟩ :: log)
        (p.name :: gone) stuck
  | refused {p : Pod} {pods : List Pod} {log : List LogEntry} {gone stuck : List String}
      {e : ClusterError} (other : e.isNotFound = false) (rest : Sorted pods log gone stuck) :
      Sorted (p :: pods) (⟨.deletePod p.namespaceName p.name, .error e⟩ :: log)
        gone (p.name :: stuck)
  | missing {p : Pod} {pods : List Pod} {log : List LogEntry} {gone stuck : List String}
      {e : ClusterError} (absent : e.isNotFound = true) (rest : Sorted pods log gone stuck) :
      Sorted (p :: pods) (⟨.deletePod p.namespaceName p.name, .error e⟩ :: log) gone stuck

section Parts

variable {σ : Type} (client : Client σ) (settings : DisruptionSettings) (w : WorkloadRef)
  (node : String) (s : Timed (Stage σ))

def withCluster (c : σ) : Timed (Stage σ) := ⟨s.clock, ⟨c, s.state.reports⟩⟩

def Deletions.counting (d : Deletions) (p : Pod) : Except ClusterError Unit → Deletions
  | .ok _ => { d with deleted := p.name :: d.deleted }
  | .error e => if e.isNotFound then d else { d with refused := p.name :: d.refused }

theorem deletePods_cons (p : Pod) (pods : List Pod) :
    deletePods client (p :: pods) s =
      let reply := client.perform (.deletePod p.namespaceName p.name) s.state.cluster
      let rest := deletePods client pods (withCluster s reply.2)
      (rest.1.counting p reply.1, rest.2) := by
  simp only [deletePods, bind, StateT.bind, Scenario.perform, withCluster]
  generalize client.perform (.deletePod p.namespaceName p.name) s.state.cluster = reply
  obtain ⟨answer, c⟩ := reply
  cases answer with
  | ok _ => rfl
  | error e =>
    simp only [Deletions.counting]
    cases e.isNotFound <;> rfl

theorem Sorted.counting {pods : List Pod} {log : List LogEntry} {d : Deletions}
    (h : Sorted pods log d.deleted d.refused) (p : Pod) (reply : Except ClusterError Unit) :
    Sorted (p :: pods) (⟨.deletePod p.namespaceName p.name, reply⟩ :: log)
      (d.counting p reply).deleted (d.counting p reply).refused := by
  cases reply with
  | ok _ => exact .deleted h
  | error e =>
    rw [Deletions.counting]
    by_cases absent : e.isNotFound = true
    · rw [if_pos absent]
      exact .missing absent h
    · rw [if_neg absent]
      exact .refused (Bool.eq_false_iff.mpr absent) h

theorem deletePods_sorted (pods : List Pod) : ∃ log c,
    client.Answers s.state.cluster log c ∧
      Sorted pods log (deletePods client pods s).1.deleted (deletePods client pods s).1.refused ∧
      (deletePods client pods s).2 = withCluster s c := by
  induction pods generalizing s with
  | nil => exact ⟨[], s.state.cluster, .nil _, .nil, rfl⟩
  | cons p pods ih =>
    rw [deletePods_cons]
    obtain ⟨log, c, answered, sorted, left⟩ :=
      ih (withCluster s (client.perform (.deletePod p.namespaceName p.name) s.state.cluster).2)
    exact ⟨_ :: log, c, .cons _ answered, sorted.counting p _, left⟩

theorem drainNode_unlisted {e : ClusterError}
    (failed : (client.perform (.nodePods node) s.state.cluster).1 = .error e) :
    let r := drainNode client settings w node s
    (r.1.outcome = .drainFailed ∧ r.1.podsDeleted = [] ∧ r.1.deleteFailures = [] ∧
      r.1.wait = none) ∧
      r.2 = withCluster s (client.perform (.nodePods node) s.state.cluster).2 := by
  simp only [drainNode, bind, StateT.bind, Scenario.perform]
  generalize client.perform (.nodePods node) s.state.cluster = listed at failed
  obtain ⟨answer, c⟩ := listed
  cases failed
  exact ⟨⟨rfl, rfl, rfl, rfl⟩, rfl⟩

def stuckRecord (refused : List String) (timeout : Duration) : NodeRecord where
  node := node
  outcome := .drainFailed
  deleteFailures := refused
  timeout := timeout
  reason := let names := ", ".intercalate refused
    s!"{w.text}: no pod could be deleted on node {node} ({names})"

theorem drainNode_listed {pods : List Pod}
    (listed : (client.perform (.nodePods node) s.state.cluster).1 = .ok pods) :
    drainNode client settings w node s =
      let eligible := eligiblePods settings pods
      let timeout := recoveryTimeout settings.perPodTimeout eligible.length
      let d := deletePods client eligible
        (withCluster s (client.perform (.nodePods node) s.state.cluster).2)
      let waited := waitReady client settings w timeout d.2
      if d.1.deleted = [] ∧ d.1.refused ≠ [] then (stuckRecord w node d.1.refused timeout, d.2)
      else (recoveryRecord w node d.1 timeout waited.1, waited.2) := by
  simp only [drainNode, bind, StateT.bind, Scenario.perform, withCluster]
  generalize client.perform (.nodePods node) s.state.cluster = made at listed
  obtain ⟨answer, c⟩ := made
  cases listed
  simp only [bind, StateT.bind]
  obtain ⟨⟨⟨deleted, refused⟩, t⟩, made⟩ : ∃ d : Deletions × Timed (Stage σ),
      deletePods client (eligiblePods settings pods) ⟨s.clock, ⟨c, s.state.reports⟩⟩ = d := ⟨_, rfl⟩
  simp only [made]
  by_cases stuck : deleted = [] ∧ refused ≠ []
  · have empty : (deleted.isEmpty && !refused.isEmpty) = true := by simpa using stuck
    simp only [if_pos empty, if_pos stuck]
    rfl
  · have some : ¬(deleted.isEmpty && !refused.isEmpty) = true := by simpa using stuck
    simp only [if_neg some, if_neg stuck]
    rfl

variable {client settings w node s} in
theorem drainNode_timeout {pods : List Pod}
    (listed : (client.perform (.nodePods node) s.state.cluster).1 = .ok pods) :
    (drainNode client settings w node s).1.timeout =
      recoveryTimeout settings.perPodTimeout (eligiblePods settings pods).length := by
  rw [drainNode_listed client settings w node s listed]
  dsimp only
  split
  · rfl
  · rfl

theorem nanos_recoveryTimeout (perPod : Duration) (pods : Nat) :
    (recoveryTimeout perPod pods).nanos =
      min (perPod.nanos * min (max 1 pods) (twoTo 32 - 1)) Duration.longest.nanos := by
  rw [recoveryTimeout, Nat.max_comm]
  rfl

end Parts

/-- A drain accounts for every pod that it has to delete: in order, each is deleted, refuses or is
gone already. The workload gets its time for each of them, where one is the least and `2 ^ 32 - 1`
the most that count. It is waited for once, unless nothing was deleted and something refused. -/
theorem drainNode_accounts {σ : Type} (client : Client σ) (settings : DisruptionSettings)
    (w : WorkloadRef) (node : String) (s : Timed (Stage σ)) :
    let listed := client.perform (.nodePods node) s.state.cluster
    let r := drainNode client settings w node s
    match (listed.1 : Except ClusterError (List Pod)) with
    | .error _ => (r.1.outcome = .drainFailed ∧ r.1.podsDeleted = [] ∧ r.1.deleteFailures = [] ∧
        r.1.wait = none) ∧ r.2 = withCluster s listed.2
    | .ok pods =>
      let eligible := eligiblePods settings pods
      ∃ log c, client.Answers listed.2 log c ∧
        Sorted eligible log r.1.podsDeleted r.1.deleteFailures ∧
        r.1.timeout.nanos = min (settings.perPodTimeout.nanos *
          min (max 1 eligible.length) (twoTo 32 - 1)) Duration.longest.nanos ∧
        let stuck := r.1.podsDeleted = [] ∧ r.1.deleteFailures ≠ []
        let waited := waitReady client settings w r.1.timeout (withCluster s c)
        (r.1.outcome = .drainFailed ∧ r.1.wait = none ↔ stuck) ∧
        (stuck → r.2 = withCluster s c) ∧
        (¬stuck → r.1.wait = some waited.1 ∧ r.2 = waited.2 ∧
          r.1.outcome = if waited.1.isConverged then .recovered else .notRecovered) := by
  intro listed r
  cases answer : (listed.1 : Except ClusterError (List Pod)) with
  | error e => exact drainNode_unlisted client settings w node s answer
  | ok pods =>
    obtain ⟨log, c, answered, sorted, left⟩ :=
      deletePods_sorted client (withCluster s listed.2) (eligiblePods settings pods)
    have told : r = _ := drainNode_listed client settings w node s answer
    dsimp only at told
    rw [left] at told
    generalize (deletePods client (eligiblePods settings pods) (withCluster s listed.2)).1 = d
      at sorted told
    refine ⟨log, c, answered, ?_⟩
    by_cases stuck : d.deleted = [] ∧ d.refused ≠ []
    · rw [if_pos stuck] at told
      rw [told]
      have sorted : Sorted (eligiblePods settings pods) log [] d.refused := stuck.1 ▸ sorted
      exact ⟨sorted, nanos_recoveryTimeout .., iff_of_true ⟨rfl, rfl⟩ ⟨rfl, stuck.2⟩, fun _ => rfl,
        fun other => absurd ⟨rfl, stuck.2⟩ other⟩
    · rw [if_neg stuck] at told
      rw [told]
      exact ⟨sorted, nanos_recoveryTimeout .., iff_of_false (fun h => nomatch h.2) stuck,
        fun h => absurd h stuck, fun _ => ⟨rfl, rfl, rfl⟩⟩

section Doubled

def webPod (name : String) (owner : String) : Pod := ⟨"shop", name, some "n1", some owner, false⟩

/-- A node that lists one pod twice, one that refuses and one that belongs to it. -/
def doubled : Timed (Stage ScriptedCluster) := ⟨{}, ⟨{ ScriptedCluster.initial with
  readiness := [(⟨"shop", "web", .deployment⟩, [.ok (.settled 2)])]
  pods := [(none, webPod "web-1" "ReplicaSet"), (none, webPod "agent" "DaemonSet"),
    (none, webPod "web-1" "ReplicaSet"), (none, webPod "web-2" "ReplicaSet")]
  podDeleteFailures := ["web-2"] }, []⟩⟩

def drainDoubled : NodeRecord × Timed (Stage ScriptedCluster) :=
  drainNode ScriptedCluster.client {} ⟨"shop", "web", .deployment⟩ "n1" doubled

/-- The pod that is listed twice is deleted once and then gone already. -/
theorem drainNode_accounts_doubled :
    (∃ log, Sorted [webPod "web-1" "ReplicaSet", webPod "web-1" "ReplicaSet",
      webPod "web-2" "ReplicaSet"] log ["web-1"] ["web-2"]) ∧
      drainDoubled.1.timeout.nanos = (Duration.ofMinutes 3).nanos ∧
      drainDoubled.1.wait = some (.converged .zero 1) ∧ drainDoubled.1.outcome = .recovered := by
  obtain ⟨log, c, -, sorted, timeout, -⟩ :=
    drainNode_accounts ScriptedCluster.client {} ⟨"shop", "web", .deployment⟩ "n1" doubled
  exact ⟨⟨log, sorted⟩, timeout, rfl, rfl⟩

end Doubled

section Crowded

def crowded (n : Nat) : Timed (Stage ScriptedCluster) := ⟨{}, ⟨{ ScriptedCluster.initial with
  pods := List.replicate n (none, webPod "web-1" "ReplicaSet") }, []⟩⟩

def crowd (n : Nat) : List Pod := List.replicate n (webPod "web-1" "ReplicaSet")

theorem listing_crowded (n : Nat) :
    (ScriptedCluster.client.perform (.nodePods "n1") (crowded n).state.cluster).1 =
      .ok (crowd n) := by
  have here : ((none : Option WorkloadRef), webPod "web-1" "ReplicaSet").2.node = some "n1" := rfl
  change Except.ok (((List.replicate n (none, webPod "web-1" "ReplicaSet")).filter _).map _) = _
  rw [List.filter_replicate, if_pos (decide_eq_true here), List.map_replicate]
  rfl

theorem length_eligible_crowd (n : Nat) : (eligiblePods {} (crowd n)).length = n := by
  have eligible : (!(true && (webPod "web-1" "ReplicaSet").isNodeBound)) = true := rfl
  rw [eligiblePods, crowd, List.filter_replicate, if_pos eligible, List.length_replicate]

/-- The time of a workload does not grow with the pods behind `2 ^ 32 - 1`. -/
theorem drainNode_counts_fewer_pods :
    let pods := crowd (twoTo 32)
    let s := crowded (twoTo 32)
    (ScriptedCluster.client.perform (.nodePods "n1") s.state.cluster).1 = .ok pods ∧
      (drainNode ScriptedCluster.client {} ⟨"shop", "web", .deployment⟩ "n1" s).1.timeout ≠
        ({} : DisruptionSettings).perPodTimeout.times (max 1 (eligiblePods {} pods).length) := by
  intro pods s
  refine ⟨listing_crowded _, ?_⟩
  rw [drainNode_timeout (listing_crowded _), length_eligible_crowd]
  decide +kernel

end Crowded

end Resilience.Drain
