import Resilience.Proofs.Drain.Course
import Resilience.Proofs.Pace
import Resilience.Proofs.Scenario.Agreement
/-! # The share of a workload

A workload has a share of its cluster: its readings, the nodes that host its pods, and every pod
that runs there or belongs to it. Driving the workload comes to the same on any two clusters that
are alike in its share, and changes nothing outside of it.
-/
namespace Resilience

namespace ScriptedCluster

theorem SameSetup.symm {c c' : ScriptedCluster} (h : SameSetup c c') : SameSetup c' c :=
  ⟨h.podLabels.symm, h.kinds.symm, h.cordonFailures.symm, h.uncordonFailures.symm,
    h.podDeleteFailures.symm, h.nodePodFailures.symm, h.createFailures.symm, h.deleteFailures.symm⟩

variable (c : ScriptedCluster)

/-- Only a reading uses up what the readings of workloads are scripted to be. -/
theorem readiness_perform (call : Call) (h : ∀ w, call ≠ .readiness w) :
    (client.perform call c).2.readiness = c.readiness := by
  cases call with
  | readiness w => exact absurd rfl (h w)
  | _ => simp only [client, record, answer, setSchedulable, deletePod, create, list, get,
      delete] <;> (repeat' split) <;> rfl

theorem pods_perform (call : Call) (h : ∀ ns name, call ≠ .deletePod ns name) :
    (client.perform call c).2.pods = c.pods := by
  cases call with
  | deletePod ns name => exact absurd rfl (h ns name)
  | _ => simp only [client, record, answer, readReadiness, setSchedulable, create, list, get,
      delete] <;> (repeat' split) <;> rfl

end ScriptedCluster

namespace Drain

open ScriptedCluster (client SameSetup isSchedulable)

structure Share where
  workload : WorkloadRef
  nodes : List String
  pods : List (String × String)

namespace Share

variable (share : Share)

def Has (p : Option WorkloadRef × Pod) : Prop := p.2.id ∈ share.pods

instance (p : Option WorkloadRef × Pod) : Decidable (share.Has p) :=
  inferInstanceAs (Decidable (_ ∈ _))

def Calls : Call → Prop
  | .readiness w | .workloadPods w => w = share.workload
  | .nodePods node | .setSchedulable node _ => node ∈ share.nodes
  | .deletePod ns name => (ns, name) ∈ share.pods
  | _ => False

/-- The share has the pods of its workload with their nodes, and the pods of its nodes. -/
structure Covers (c : ScriptedCluster) : Prop where
  owned : ∀ p ∈ c.pods, p.1 = some share.workload →
    share.Has p ∧ ∀ node, p.2.node = some node → node ∈ share.nodes
  hosted : ∀ p ∈ c.pods, ∀ node ∈ share.nodes, p.2.node = some node → share.Has p

structure Alike (c c' : ScriptedCluster) : Prop where
  readiness : Dict.find? c'.readiness share.workload = Dict.find? c.readiness share.workload
  pods : c'.pods.filter share.Has = c.pods.filter share.Has
  schedulable : ∀ node ∈ share.nodes, c'.isSchedulable node = c.isSchedulable node

structure Within (c c' : ScriptedCluster) : Prop where
  setup : SameSetup c c'
  readiness : ∀ w, w ≠ share.workload → Dict.find? c'.readiness w = Dict.find? c.readiness w
  pods : (c'.pods.filter fun p => ¬ share.Has p) = c.pods.filter fun p => ¬ share.Has p
  fewer : c'.pods.Sublist c.pods
  schedulable : ∀ node ∉ share.nodes, c'.isSchedulable node = c.isSchedulable node

instance : IsPreorder ScriptedCluster share.Within where
  refl c := ⟨refl c, fun _ _ => rfl, rfl, .refl _, fun _ _ => rfl⟩
  trans _ _ _ h k := ⟨IsTrans.trans _ _ _ h.setup k.setup,
    fun w hw => (k.readiness w hw).trans (h.readiness w hw), k.pods.trans h.pods,
    k.fewer.trans h.fewer, fun node hn => (k.schedulable node hn).trans (h.schedulable node hn)⟩

variable {share} {c c' : ScriptedCluster} {call : Call}

theorem Alike.symm (h : share.Alike c c') : share.Alike c' c :=
  ⟨h.readiness.symm, h.pods.symm, fun node hn => (h.schedulable node hn).symm⟩

theorem Alike.trans {c'' : ScriptedCluster} (h : share.Alike c c') (k : share.Alike c' c'') :
    share.Alike c c'' :=
  ⟨k.readiness.trans h.readiness, k.pods.trans h.pods,
    fun node hn => (k.schedulable node hn).trans (h.schedulable node hn)⟩

theorem Covers.sublist (h : share.Covers c) (fewer : c'.pods.Sublist c.pods) : share.Covers c' :=
  ⟨fun p hp => h.owned p (fewer.subset hp), fun p hp => h.hosted p (fewer.subset hp)⟩

theorem within_perform (h : share.Calls call) (c : ScriptedCluster) :
    share.Within c (client.perform call c).2 := by
  have setup := ScriptedCluster.sameSetup_perform call c
  cases call with
  | readiness w =>
    cases h
    rcases ScriptedCluster.readiness_cases c share.workload with
      ⟨-, performed⟩ | ⟨script, -, performed⟩
    · rw [performed] at setup ⊢
      exact ⟨setup, fun _ _ => rfl, rfl, .refl _, fun _ _ => rfl⟩
    · rw [performed] at setup ⊢
      refine ⟨setup, fun w other => ?_, rfl, .refl _, fun _ _ => rfl⟩
      simp only [ScriptedCluster.set, Dict.find?, if_neg other, Dict.find?_erase_of_ne _ other]
  | workloadPods w => exact ⟨setup, fun _ _ => rfl, rfl, .refl _, fun _ _ => rfl⟩
  | nodePods node => exact ⟨setup, fun _ _ => rfl, rfl, .refl _, fun _ _ => rfl⟩
  | setSchedulable node b =>
    have readiness := ScriptedCluster.readiness_perform c (.setSchedulable node b) (by simp)
    have pods := ScriptedCluster.pods_perform c (.setSchedulable node b) (by simp)
    refine ⟨setup, fun w _ => by rw [readiness], by rw [pods], pods ▸ .refl _, ?_⟩
    intro other outside
    have apart : other ≠ node := by
      rintro rfl
      exact outside h
    rw [ScriptedCluster.isSchedulable_switch, if_neg fun k => apart k.1]
  | deletePod ns name =>
    rcases ScriptedCluster.deletePod_cases c ns name with
      ⟨-, performed⟩ | ⟨-, -, performed⟩ | ⟨-, -, performed⟩
    · rw [performed] at setup ⊢
      exact ⟨setup, fun _ _ => rfl, rfl, .refl _, fun _ _ => rfl⟩
    · rw [performed] at setup ⊢
      exact ⟨setup, fun _ _ => rfl, rfl, .refl _, fun _ _ => rfl⟩
    · rw [performed] at setup ⊢
      refine ⟨setup, fun _ _ => rfl, ?_, List.filter_sublist, fun _ _ => rfl⟩
      -- only pods of these names are taken away, and they are all in the share
      rw [List.filter_filter]
      apply List.filter_congr
      intro p _
      have named : p.2.id = (ns, name) → share.Has p := fun same => by
        rw [Has, same]
        exact h
      simpa using fun outside same => outside (named same)
  | _ => exact h.elim

theorem filter_eq_of_imp {α : Type} {P Q : α → Prop} [DecidablePred P] [DecidablePred Q]
    {l : List α} (h : ∀ a ∈ l, P a → Q a) : l.filter P = (l.filter Q).filter P := by
  rw [List.filter_filter]
  apply List.filter_congr
  intro a ha
  by_cases chosen : P a
  · simp [chosen, h a ha chosen]
  · simp [chosen]

theorem Alike.filter_eq (alike : share.Alike c c') {P : Option WorkloadRef × Pod → Prop}
    [DecidablePred P] (h : ∀ p ∈ c.pods, P p → share.Has p)
    (h' : ∀ p ∈ c'.pods, P p → share.Has p) :
    c'.pods.filter P = c.pods.filter P := by
  rw [filter_eq_of_imp h, filter_eq_of_imp h', alike.pods]

theorem Alike.exists_iff (alike : share.Alike c c') {P : Option WorkloadRef × Pod → Prop}
    (h : ∀ p, P p → share.Has p) : (∃ p ∈ c'.pods, P p) ↔ ∃ p ∈ c.pods, P p := by
  have members : ∀ p, P p → (p ∈ c'.pods ↔ p ∈ c.pods) := by
    intro p hp
    have same : p ∈ c'.pods.filter share.Has ↔ p ∈ c.pods.filter share.Has := by rw [alike.pods]
    simpa [h p hp] using same
  exact exists_congr fun p => and_congr_left fun hp => members p hp

/-- The call is answered alike on both clusters, which stay alike in the share. -/
def Matches (share : Share) (call : Call) (c c' : ScriptedCluster) : Prop :=
  (client.perform call c).1 = (client.perform call c').1 ∧
    share.Alike (client.perform call c).2 (client.perform call c').2

theorem Alike.readiness_matches (alike : share.Alike c c') :
    share.Matches (.readiness share.workload) c c' := by
  unfold Matches
  rcases ScriptedCluster.readiness_cases c share.workload with
    ⟨found, performed⟩ | ⟨script, found, performed⟩
  · rcases ScriptedCluster.readiness_cases c' share.workload with
      ⟨-, performed'⟩ | ⟨script', found', -⟩
    · rw [performed, performed']
      exact ⟨rfl, alike.readiness, alike.pods, alike.schedulable⟩
    · rw [alike.readiness, found] at found'
      cases found'
  · rcases ScriptedCluster.readiness_cases c' share.workload with
      ⟨found', -⟩ | ⟨script', found', performed'⟩
    · rw [alike.readiness, found] at found'
      cases found'
    · rw [alike.readiness, found] at found'
      cases found'
      rw [performed, performed']
      refine ⟨rfl, ?_, alike.pods, alike.schedulable⟩
      simp [ScriptedCluster.set, Dict.find?]

theorem Alike.setSchedulable_matches (alike : share.Alike c c') (setup : SameSetup c c')
    (node : String) (b : Bool) : share.Matches (.setSchedulable node b) c c' := by
  have schedulable : ∀ other ∈ share.nodes,
      (client.perform (.setSchedulable node b) c').2.isSchedulable other =
        (client.perform (.setSchedulable node b) c).2.isSchedulable other := by
    intro other ho
    simp only [ScriptedCluster.isSchedulable_switch, setup.refuses_iff, alike.schedulable other ho]
  unfold Matches
  by_cases refused : c.refuses node b
  · have refused' := (setup.refuses_iff node b).mpr refused
    rw [ScriptedCluster.switch_refused refused, ScriptedCluster.switch_refused refused']
      at schedulable ⊢
    exact ⟨rfl, alike.readiness, alike.pods, schedulable⟩
  · have accepted' := mt (setup.refuses_iff node b).mp refused
    rw [ScriptedCluster.switch_accepted refused, ScriptedCluster.switch_accepted accepted']
      at schedulable ⊢
    exact ⟨rfl, alike.readiness, alike.pods, schedulable⟩

theorem Alike.deletePod_matches (alike : share.Alike c c') (setup : SameSetup c c')
    {ns name : String} (h : (ns, name) ∈ share.pods) :
    share.Matches (.deletePod ns name) c c' := by
  have there : (∃ p ∈ c'.pods, p.2.id = (ns, name)) ↔ ∃ p ∈ c.pods, p.2.id = (ns, name) := by
    apply alike.exists_iff
    intro p same
    rw [Has, same]
    exact h
  have refuses : name ∈ c'.podDeleteFailures ↔ name ∈ c.podDeleteFailures := by
    rw [setup.podDeleteFailures]
  unfold Matches
  rcases ScriptedCluster.deletePod_cases c ns name with
    ⟨refused, performed⟩ | ⟨free, none, performed⟩ | ⟨free, some, performed⟩
  · rcases ScriptedCluster.deletePod_cases c' ns name with
      ⟨-, performed'⟩ | ⟨free', -⟩ | ⟨free', -⟩
    · rw [performed, performed']
      exact ⟨rfl, alike.readiness, alike.pods, alike.schedulable⟩
    · exact absurd (refuses.mpr refused) free'
    · exact absurd (refuses.mpr refused) free'
  · rcases ScriptedCluster.deletePod_cases c' ns name with
      ⟨refused', -⟩ | ⟨-, -, performed'⟩ | ⟨-, some', -⟩
    · exact absurd (refuses.mp refused') free
    · rw [performed, performed']
      exact ⟨rfl, alike.readiness, alike.pods, alike.schedulable⟩
    · obtain ⟨p, hp, same⟩ := there.mp some'
      exact absurd same (none p hp)
  · rcases ScriptedCluster.deletePod_cases c' ns name with
      ⟨refused', -⟩ | ⟨-, none', -⟩ | ⟨-, -, performed'⟩
    · exact absurd (refuses.mp refused') free
    · obtain ⟨p, hp, same⟩ := there.mpr some
      exact absurd same (none' p hp)
    · rw [performed, performed']
      refine ⟨rfl, alike.readiness, ?_, alike.schedulable⟩
      dsimp only
      rw [List.filter_comm, alike.pods, List.filter_comm]

/-- A call of the share does not tell clusters apart that are alike in it. -/
theorem Alike.perform_matches (alike : share.Alike c c') (h : share.Calls call)
    (setup : SameSetup c c') (covers : share.Covers c) (covers' : share.Covers c') :
    share.Matches call c c' := by
  cases call with
  | readiness w =>
    cases h
    exact alike.readiness_matches
  | workloadPods w =>
    cases h
    have listed : c'.readWorkloadPods share.workload = c.readWorkloadPods share.workload := by
      rw [ScriptedCluster.readWorkloadPods, ScriptedCluster.readWorkloadPods, Dict.contains,
        Dict.contains, alike.readiness, alike.filter_eq (fun p hp own => (covers.owned p hp own).1)
          fun p hp own => (covers'.owned p hp own).1]
    exact ⟨listed.symm, alike.readiness, alike.pods, alike.schedulable⟩
  | nodePods node =>
    have listed : c'.readNodePods node = c.readNodePods node := by
      rw [ScriptedCluster.readNodePods, ScriptedCluster.readNodePods, setup.nodePodFailures,
        alike.filter_eq (fun p hp => covers.hosted p hp node h)
          fun p hp => covers'.hosted p hp node h]
    exact ⟨listed.symm, alike.readiness, alike.pods, alike.schedulable⟩
  | setSchedulable node b => exact alike.setSchedulable_matches setup node b
  | deletePod ns name => exact alike.deletePod_matches setup h
  | _ => exact h.elim

theorem Covers.id_mem_of_nodePods (covers : share.Covers c) {node : String}
    (hn : node ∈ share.nodes) {pods : List Pod}
    (listed : (client.perform (.nodePods node) c).1 = .ok pods) :
    ∀ p ∈ pods, p.id ∈ share.pods := by
  change c.readNodePods node = .ok pods at listed
  unfold ScriptedCluster.readNodePods at listed
  split at listed
  · cases listed
  · cases listed
    intro p hp
    obtain ⟨q, hq, rfl⟩ := List.mem_map.mp hp
    obtain ⟨there, here⟩ := List.mem_filter.mp hq
    exact covers.hosted q there node hn (of_decide_eq_true here)

theorem Covers.node_mem_of_workloadPods (covers : share.Covers c) {pods : List Pod}
    (listed : (client.perform (.workloadPods share.workload) c).1 = .ok pods) :
    ∀ node ∈ nodesOf pods, node ∈ share.nodes := by
  change c.readWorkloadPods share.workload = .ok pods at listed
  unfold ScriptedCluster.readWorkloadPods at listed
  split at listed
  · cases listed
    intro node hn
    obtain ⟨p, hp, hosted⟩ := mem_nodesOf.mp hn
    obtain ⟨q, hq, rfl⟩ := List.mem_map.mp hp
    obtain ⟨there, own⟩ := List.mem_filter.mp hq
    exact (covers.owned q there (of_decide_eq_true own)).2 node hosted
  · cases listed

structure Comparable (share : Share) (base base' : ScriptedCluster) : Prop where
  setup : SameSetup base base'
  first : share.Covers base
  second : share.Covers base'

structure Beside (share : Share) (base base' : ScriptedCluster)
    (t t' : Stage ScriptedCluster) : Prop where
  alike : share.Alike t.cluster t'.cluster
  first : share.Within base t.cluster
  second : share.Within base' t'.cluster

section Runs

variable {base base' : ScriptedCluster} (both : share.Comparable base base')
include both

theorem agrees_perform (call : Call) (h : share.Calls call) :
    Agrees (share.Beside base base') (Scenario.perform client call) := by
  apply Scenario.agrees_perform
  rintro t t' ⟨alike, first, second⟩
  have here : SameSetup t.cluster t'.cluster :=
    IsTrans.trans _ _ _ first.setup.symm (IsTrans.trans _ _ _ both.setup second.setup)
  obtain ⟨same, alike'⟩ :=
    alike.perform_matches h here (both.first.sublist first.fewer) (both.second.sublist second.fewer)
  exact ⟨same, alike', IsTrans.trans _ _ _ first (within_perform h _),
    IsTrans.trans _ _ _ second (within_perform h _)⟩

variable (settings : DisruptionSettings)

theorem waitReady_agrees (timeout : Duration) : Agrees (share.Beside base base')
    (waitReady client settings share.workload timeout) := by
  have check : Agrees (share.Beside base base') (readyCheck client share.workload) := by
    apply (agrees_perform both (.readiness share.workload) rfl).bind
    rintro (e | r) -
    · exact Agrees.pure _
    · exact Agrees.pure _
  exact check.waitFor readyCheck_still _ _

theorem deletePods_agrees (pods : List Pod) (own : ∀ p ∈ pods, p.id ∈ share.pods) :
    Agrees (share.Beside base base') (deletePods client pods) := by
  induction pods with
  | nil => exact Agrees.pure _
  | cons p pods ih =>
    have later := ih fun q hq => own q (List.mem_cons_of_mem p hq)
    apply (agrees_perform both (.deletePod p.namespaceName p.name)
      (own p List.mem_cons_self)).bind
    rintro reply -
    apply later.bind
    rintro rest -
    cases reply with
    | ok _ => exact Agrees.pure _
    | error e =>
      dsimp only
      split
      · exact Agrees.pure _
      · exact Agrees.pure _

theorem drainNode_agrees {node : String} (hn : node ∈ share.nodes) :
    Agrees (share.Beside base base') (drainNode client settings share.workload node) := by
  apply (agrees_perform both (.nodePods node) hn).bind
  rintro (e | pods) ⟨s, s', related, listed⟩
  · exact Agrees.pure _
  · -- the pods to delete were listed on a node of the share
    have own := (both.first.sublist related.first.fewer).id_mem_of_nodePods hn listed
    apply (deletePods_agrees both _ fun p hp => own p (List.mem_filter.mp hp).1).bind
    rintro d -
    dsimp only
    split
    · exact Agrees.pure _
    · exact (waitReady_agrees both settings _).bind fun _ _ => Agrees.pure _

theorem nodeRecord_agrees {node : String} (hn : node ∈ share.nodes) :
    Agrees (share.Beside base base') (nodeRecord client settings share.workload node) := by
  apply (agrees_perform both (.setSchedulable node false) hn).bind
  rintro (e | u) -
  · exact Agrees.pure _
  · exact drainNode_agrees both settings hn

theorem uncordon_agrees {node : String} (hn : node ∈ share.nodes) :
    Agrees (share.Beside base base') (uncordon client node) := by
  apply (agrees_perform both (.setSchedulable node true) hn).bind
  rintro (e | u) -
  · exact Agrees.pure _
  · exact Agrees.pure _

theorem disruptNodes_agrees (nodes : List String) (own : ∀ node ∈ nodes, node ∈ share.nodes) :
    Agrees (share.Beside base base') (disruptNodes client settings share.workload nodes) := by
  induction nodes with
  | nil => exact Agrees.pure _
  | cons node nodes ih =>
    have here := own node List.mem_cons_self
    have later := ih fun other ho => own other (List.mem_cons_of_mem node ho)
    apply (nodeRecord_agrees both settings here).bind
    rintro r -
    apply (uncordon_agrees both here).bind
    rintro (e | u) -
    · exact Agrees.pure _
    · exact later.bind fun _ _ => Agrees.pure _

/-- Driving a workload does not tell clusters apart that are alike in its share. -/
theorem drive_agrees :
    Agrees (share.Beside base base') (drive client settings share.workload) := by
  apply (waitReady_agrees both settings _).bind
  rintro baseline -
  dsimp only
  split
  · exact Agrees.pure _
  · apply (agrees_perform both (.workloadPods share.workload) rfl).bind
    rintro (e | pods) ⟨s, s', related, listed⟩
    · exact Agrees.pure _
    · have own := (both.first.sublist related.first.fewer).node_mem_of_workloadPods listed
      dsimp only
      split
      · exact Agrees.pure _
      · exact (disruptNodes_agrees both settings _ own).bind fun _ _ => Agrees.pure _

end Runs

theorem drive_within (settings : DisruptionSettings) {s : Timed (Stage ScriptedCluster)}
    (covers : share.Covers s.state.cluster) :
    share.Within s.state.cluster (drive client settings share.workload s).2.state.cluster :=
  (drive_agrees ⟨refl _, covers, covers⟩ settings s s
    ⟨⟨rfl, rfl, fun _ _ => rfl⟩, refl _, refl _⟩).2.first

end Share
end Drain
end Resilience
