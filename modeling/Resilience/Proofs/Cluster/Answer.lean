import Mathlib.Order.Defs.Unbundled
import Resilience.Cluster.Scripted
/-! # What a call changes

A call is written down and then answered. What was set up beforehand stays as it is whatever is
called: the labels of pods, the kinds that are served, and the failures that were asked for.
-/
namespace Resilience

def Pod.id (p : Pod) : String × String := (p.namespaceName, p.name)

namespace ScriptedCluster

structure SameSetup (c c' : ScriptedCluster) : Prop where
  podLabels : c'.podLabels = c.podLabels
  kinds : c'.kinds = c.kinds
  cordonFailures : c'.cordonFailures = c.cordonFailures
  uncordonFailures : c'.uncordonFailures = c.uncordonFailures
  podDeleteFailures : c'.podDeleteFailures = c.podDeleteFailures
  nodePodFailures : c'.nodePodFailures = c.nodePodFailures
  createFailures : c'.createFailures = c.createFailures
  deleteFailures : c'.deleteFailures = c.deleteFailures

instance : IsPreorder ScriptedCluster SameSetup where
  refl _ := ⟨rfl, rfl, rfl, rfl, rfl, rfl, rfl, rfl⟩
  trans _ _ _ h k :=
    ⟨k.podLabels.trans h.podLabels, k.kinds.trans h.kinds,
      k.cordonFailures.trans h.cordonFailures, k.uncordonFailures.trans h.uncordonFailures,
      k.podDeleteFailures.trans h.podDeleteFailures, k.nodePodFailures.trans h.nodePodFailures,
      k.createFailures.trans h.createFailures, k.deleteFailures.trans h.deleteFailures⟩

variable (call : Call) (c : ScriptedCluster)

theorem sameSetup_perform : SameSetup c (client.perform call c).2 := by
  cases call <;> simp only [client, record, answer, readReadiness, setSchedulable, deletePod,
    create, list, get, delete] <;> (repeat' split) <;>
    exact ⟨rfl, rfl, rfl, rfl, rfl, rfl, rfl, rfl⟩

/-- Every call is written down once, behind those before it. -/
theorem calls_perform : (client.perform call c).2.calls = c.calls ++ [call] := by
  cases call <;> simp only [client, record, answer, readReadiness, setSchedulable, deletePod,
    create, list, get, delete] <;> (repeat' split) <;> rfl

/-- Only a call to make a node schedulable or unschedulable does so. -/
theorem unschedulable_perform (h : ∀ node b, call ≠ .setSchedulable node b) :
    (client.perform call c).2.unschedulable = c.unschedulable := by
  cases call with
  | setSchedulable node b => exact absurd rfl (h node b)
  | _ => simp only [client, record, answer, readReadiness, deletePod, create, list, get,
      delete] <;> (repeat' split) <;> rfl

def refuses (node : String) (schedulable : Bool) : Prop :=
  node ∈ (if schedulable then c.uncordonFailures else c.cordonFailures)

instance (node : String) (schedulable : Bool) : Decidable (c.refuses node schedulable) :=
  inferInstanceAs (Decidable (node ∈ _))

variable {c}

theorem SameSetup.refuses_iff {c' : ScriptedCluster} (h : SameSetup c c') (node : String)
    (schedulable : Bool) : c'.refuses node schedulable ↔ c.refuses node schedulable := by
  rw [refuses, refuses, h.cordonFailures, h.uncordonFailures]

section Switch

variable {node : String} {schedulable : Bool}

theorem switch_refused (h : c.refuses node schedulable) :
    client.perform (.setSchedulable node schedulable) c =
      (.error (injected "node patch rejected"), c.record (.setSchedulable node schedulable)) :=
  if_pos h

theorem switch_accepted (h : ¬ c.refuses node schedulable) :
    client.perform (.setSchedulable node schedulable) c =
      (.ok (), { c.record (.setSchedulable node schedulable) with
        unschedulable := if schedulable then c.unschedulable.filter (· ≠ node)
          else node :: c.unschedulable.filter (· ≠ node) }) :=
  if_neg h

theorem switch_accepted_iff :
    (client.perform (.setSchedulable node schedulable) c).1 = .ok () ↔
      ¬ c.refuses node schedulable := by
  by_cases h : c.refuses node schedulable
  · simp [switch_refused h, h]
  · simp [switch_accepted h, h]

/-- A switch that is accepted sets its node. Every other node stays as it is. -/
theorem isSchedulable_switch (other : String) :
    (client.perform (.setSchedulable node schedulable) c).2.isSchedulable other =
      if other = node ∧ ¬ c.refuses node schedulable then schedulable
      else c.isSchedulable other := by
  by_cases h : c.refuses node schedulable
  · rw [switch_refused h, if_neg fun k => k.2 h]
    rfl
  · rw [switch_accepted h]
    by_cases same : other = node
    · cases schedulable <;> simp [isSchedulable, same, h]
    · cases schedulable <;> simp [isSchedulable, same]

end Switch

section Cases

variable (c : ScriptedCluster)

theorem readiness_cases (w : WorkloadRef) :
    (Dict.find? c.readiness w = none ∧ client.perform (.readiness w) c =
      (.error (missingWorkload w), c.record (.readiness w))) ∨
    ∃ script, Dict.find? c.readiness w = some script ∧ client.perform (.readiness w) c =
      (script.next?.getD (.error (missingWorkload w)),
        { c.record (.readiness w) with readiness := set c.readiness w script.rest }) := by
  have performed : client.perform (.readiness w) c =
    (c.record (.readiness w)).readReadiness w := rfl
  rw [performed]
  unfold readReadiness
  cases found : Dict.find? (c.record (.readiness w)).readiness w with
  | none => exact .inl ⟨found, rfl⟩
  | some script => exact .inr ⟨script, found, rfl⟩

/-- A deletion of a pod is made to fail, or finds none, or takes away every pod of these names. -/
theorem deletePod_cases (ns name : String) :
    (name ∈ c.podDeleteFailures ∧ client.perform (.deletePod ns name) c =
      (.error (injected "pod delete rejected"), c.record (.deletePod ns name))) ∨
    (name ∉ c.podDeleteFailures ∧ (∀ p ∈ c.pods, p.2.id ≠ (ns, name)) ∧
      client.perform (.deletePod ns name) c =
        (.error (.notFound "Pod" name), c.record (.deletePod ns name))) ∨
    (name ∉ c.podDeleteFailures ∧ (∃ p ∈ c.pods, p.2.id = (ns, name)) ∧
      client.perform (.deletePod ns name) c = (.ok (), { c.record (.deletePod ns name) with
        pods := c.pods.filter fun p => p.2.id ≠ (ns, name) })) := by
  by_cases refused : name ∈ c.podDeleteFailures
  · left
    exact ⟨refused, if_pos refused⟩
  right
  have kept : (c.pods.filter fun p => !(p.2.namespaceName = ns && p.2.name = name)) =
      c.pods.filter fun p => p.2.id ≠ (ns, name) := by
    apply List.filter_congr
    intro p _
    simp [Pod.id]
  have performed : client.perform (.deletePod ns name) c =
      if (c.pods.filter fun p => p.2.id ≠ (ns, name)).length = c.pods.length then
        (.error (.notFound "Pod" name), c.record (.deletePod ns name))
      else (.ok (), { c.record (.deletePod ns name) with
        pods := c.pods.filter fun p => p.2.id ≠ (ns, name) }) := by
    rw [← kept]
    exact if_neg refused
  by_cases there : ∃ p ∈ c.pods, p.2.id = (ns, name)
  · right
    refine ⟨refused, there, performed.trans (if_neg ?_)⟩
    obtain ⟨p, hp, same⟩ := there
    intro whole
    exact of_decide_eq_true (List.length_filter_eq_length_iff.mp whole p hp) same
  · left
    have others : ∀ p ∈ c.pods, p.2.id ≠ (ns, name) := fun p hp same => there ⟨p, hp, same⟩
    refine ⟨refused, others, performed.trans (if_pos ?_)⟩
    rw [List.filter_eq_self.mpr fun p hp => decide_eq_true (others p hp)]

end Cases

end ScriptedCluster
end Resilience
