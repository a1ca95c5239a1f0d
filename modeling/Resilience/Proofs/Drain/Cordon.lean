import Resilience.Proofs.Cluster.Answer
import Resilience.Proofs.Scenario.Frame
import Resilience.Scenario.Drain
/-! # Cordons are taken back

Every cordon of a run is followed by the uncordon of the same node before another node is touched,
whatever happens in between. Nodes are left as they were found, except that a node is schedulable
behind its last uncordon; the one exception is the node whose uncordon failed, which ends the run.
-/
namespace Resilience.Drain

open ScriptedCluster (client SameSetup isSchedulable)

def switches (calls : List Call) : List (String × Bool) :=
  calls.filterMap fun
    | .setSchedulable node schedulable => some (node, schedulable)
    | _ => none

/-- A cordon and the uncordon that takes it back. -/
def bracket (node : String) : List (String × Bool) := [(node, false), (node, true)]

/-- Calls were made, but none that makes a node schedulable or unschedulable. -/
structure Quiet (c c' : ScriptedCluster) : Prop where
  calls : ∃ more, c'.calls = c.calls ++ more ∧ switches more = []
  setup : SameSetup c c'
  unschedulable : c'.unschedulable = c.unschedulable

instance : IsPreorder ScriptedCluster Quiet where
  refl c := ⟨⟨[], by simp [switches]⟩, refl c, rfl⟩
  trans a b c h k := by
    obtain ⟨first, hf, hq⟩ := h.calls
    obtain ⟨second, hs, kq⟩ := k.calls
    refine ⟨⟨first ++ second, ?_, ?_⟩, IsTrans.trans _ _ _ h.setup k.setup,
      k.unschedulable.trans h.unschedulable⟩
    · rw [hs, hf, List.append_assoc]
    · rw [switches, List.filterMap_append, ← switches, ← switches, hq, kq, List.append_nil]

theorem quiet_perform {call : Call} (h : ∀ node b, call ≠ .setSchedulable node b)
    (c : ScriptedCluster) : Quiet c (client.perform call c).2 := by
  refine ⟨⟨[call], ScriptedCluster.calls_perform call c, ?_⟩,
    ScriptedCluster.sameSetup_perform call c, ScriptedCluster.unschedulable_perform call c h⟩
  cases call with
  | setSchedulable node b => exact absurd rfl (h node b)
  | _ => rfl

variable (settings : DisruptionSettings) (w : WorkloadRef)

theorem waitReady_quiet (timeout : Duration) :
    Keeps Stage.cluster Quiet (waitReady client settings w timeout) := by
  refine Keeps.waitFor (Keeps.bind (Scenario.keeps_perform (quiet_perform (by simp))) ?_) _ _
  intro answer
  cases answer <;> exact Keeps.pure _

theorem deletePods_quiet (pods : List Pod) :
    Keeps Stage.cluster Quiet (deletePods client pods) := by
  induction pods with
  | nil => exact Keeps.pure _
  | cons p pods ih =>
    refine Keeps.bind (Scenario.keeps_perform (quiet_perform (by simp))) fun reply => ?_
    refine Keeps.bind ih fun rest => ?_
    cases reply with
    | ok _ => exact Keeps.pure _
    | error e =>
      dsimp only
      split
      · exact Keeps.pure _
      · exact Keeps.pure _

theorem drainNode_quiet (node : String) :
    Keeps Stage.cluster Quiet (drainNode client settings w node) := by
  refine Keeps.bind (Scenario.keeps_perform (quiet_perform (by simp))) fun listed => ?_
  cases listed with
  | error e => exact Keeps.pure _
  | ok pods =>
    refine Keeps.bind (deletePods_quiet _) fun d => ?_
    dsimp only
    split
    · exact Keeps.pure _
    · exact Keeps.bind (waitReady_quiet settings w _) fun _ => Keeps.pure _

def failure? {ε α : Type} : Except ε α → Option ε
  | .ok _ => none
  | .error e => some e

theorem failure?_map {ε α β : Type} (f : α → β) (r : Except ε α) :
    failure? (r.map f) = failure? r := by
  cases r <;> rfl

/-- The cycles of these nodes lie between two clusters; the failure, if any, is that the last of
them could not be made schedulable again. -/
structure Bracketed (nodes : List String) (failure : Option ScenarioError)
    (c c' : ScriptedCluster) : Prop where
  calls : ∃ more, c'.calls = c.calls ++ more ∧ switches more = nodes.flatMap bracket
  setup : SameSetup c c'
  restored : ∀ node ∈ nodes, (∀ source, failure ≠ some (.uncordonFailed node source)) →
    ¬ c.refuses node true ∧ c'.isSchedulable node = true
  stranded : ∀ e, failure = some e → ∃ node source, e = .uncordonFailed node source ∧
    node ∈ nodes ∧ c.refuses node true ∧
    (c'.isSchedulable node = false ↔ ¬ c.refuses node false ∨ c.isSchedulable node = false)
  frame : ∀ node ∉ nodes, c'.isSchedulable node = c.isSchedulable node

theorem Quiet.bracketed {c c' : ScriptedCluster} (h : Quiet c c') : Bracketed [] none c c' where
  calls := h.calls
  setup := h.setup
  restored _ hn := absurd hn List.not_mem_nil
  stranded _ he := absurd he (by simp)
  frame _ _ := by rw [isSchedulable, isSchedulable, h.unschedulable]

/-- Cycles that all ended well can be followed by others. The node that stops the later ones is
none of the earlier ones, since those could all be made schedulable again. -/
theorem Bracketed.append {ns ms : List String} {failure : Option ScenarioError}
    {a b c : ScriptedCluster} (h : Bracketed ns none a b) (k : Bracketed ms failure b c) :
    Bracketed (ns ++ ms) failure a c where
  calls := by
    obtain ⟨first, hf, hs⟩ := h.calls
    obtain ⟨second, kf, ks⟩ := k.calls
    refine ⟨first ++ second, ?_, ?_⟩
    · rw [kf, hf, List.append_assoc]
    · rw [List.flatMap_append, ← hs, ← ks, switches, switches, switches, List.filterMap_append]
  setup := IsTrans.trans _ _ _ h.setup k.setup
  restored node hn hfail := by
    by_cases hm : node ∈ ms
    · obtain ⟨hr, hc⟩ := k.restored node hm hfail
      exact ⟨fun r => hr ((h.setup.refuses_iff node true).2 r), hc⟩
    · have hns : node ∈ ns := (List.mem_append.1 hn).resolve_right hm
      obtain ⟨hr, hb⟩ := h.restored node hns (by simp)
      exact ⟨hr, (k.frame node hm).trans hb⟩
  stranded e he := by
    obtain ⟨node, source, hnode, hm, hr, hiff⟩ := k.stranded e he
    rw [h.setup.refuses_iff] at hr
    have hns : node ∉ ns := fun hn => (h.restored node hn (by simp)).1 hr
    rw [h.setup.refuses_iff, h.frame node hns] at hiff
    exact ⟨node, source, hnode, List.mem_append_right ns hm, hr, hiff⟩
  frame node hn := by
    rw [List.mem_append, not_or] at hn
    exact (k.frame node hn.2).trans (h.frame node hn.1)

theorem Bracketed.quiet {ns : List String} {failure : Option ScenarioError}
    {a b c : ScriptedCluster} (h : Bracketed ns failure a b) (k : Quiet b c) :
    Bracketed ns failure a c := by
  have same : ∀ node, c.isSchedulable node = b.isSchedulable node := fun node => by
    rw [isSchedulable, isSchedulable, k.unschedulable]
  refine ⟨?_, IsTrans.trans _ _ _ h.setup k.setup, ?_, ?_, ?_⟩
  · obtain ⟨first, hf, hs⟩ := h.calls
    obtain ⟨second, kf, ks⟩ := k.calls
    refine ⟨first ++ second, ?_, ?_⟩
    · rw [kf, hf, List.append_assoc]
    · rw [switches, List.filterMap_append, ← switches, ← switches, hs, ks, List.append_nil]
  · simpa only [same] using h.restored
  · simpa only [same] using h.stranded
  · simpa only [same] using h.frame

/-- A node is cordoned or not, is drained, and is then made schedulable or not. -/
theorem cycle_bracketed {c drained : ScriptedCluster} {node : String}
    (drain : Quiet (client.perform (.setSchedulable node false) c).2 drained) :
    Bracketed [node]
      ((failure? (client.perform (.setSchedulable node true) drained).1).map
        (ScenarioError.uncordonFailed node))
      c (client.perform (.setSchedulable node true) drained).2 := by
  have before : SameSetup c drained :=
    IsTrans.trans _ _ _ (ScriptedCluster.sameSetup_perform _ c) drain.setup
  have kept : ∀ other, drained.isSchedulable other =
      if other = node ∧ ¬ c.refuses node false then false else c.isSchedulable other := by
    intro other
    rw [← ScriptedCluster.isSchedulable_switch, isSchedulable, isSchedulable, drain.unschedulable]
  refine ⟨?calls, ?setup, ?restored, ?stranded, ?frame⟩
  case calls =>
    obtain ⟨more, hm, hq⟩ := drain.calls
    refine ⟨.setSchedulable node false :: (more ++ [.setSchedulable node true]), ?_, ?_⟩
    · rw [ScriptedCluster.calls_perform, hm, ScriptedCluster.calls_perform]
      simp
    · simp only [switches] at hq
      simp [switches, hq, bracket]
  case setup => exact IsTrans.trans _ _ _ before (ScriptedCluster.sameSetup_perform _ drained)
  case restored =>
    intro other hother hfail
    obtain rfl := List.mem_singleton.1 hother
    have accepted : ¬ drained.refuses other true := by
      intro refused
      exact hfail _ (by rw [ScriptedCluster.switch_refused refused]; rfl)
    refine ⟨fun h => accepted ((before.refuses_iff other true).2 h), ?_⟩
    rw [ScriptedCluster.isSchedulable_switch, if_pos ⟨rfl, accepted⟩]
  case stranded =>
    intro e he
    have refused : drained.refuses node true := Decidable.byContradiction fun accepted => by
      rw [ScriptedCluster.switch_accepted accepted] at he
      cases he
    have stays := @ScriptedCluster.isSchedulable_switch drained node true node
    rw [if_neg fun k => k.2 refused, kept node] at stays
    rw [ScriptedCluster.switch_refused refused] at he
    refine ⟨node, _, (Option.some.inj he).symm, List.mem_singleton_self node,
      (before.refuses_iff node true).1 refused, ?_⟩
    rw [stays]
    by_cases h : c.refuses node false
    · simp [h]
    · simp [h]
  case frame =>
    intro other hother
    have distinct : other ≠ node := fun h => hother (List.mem_singleton.2 h)
    rw [ScriptedCluster.isSchedulable_switch, if_neg fun k => distinct k.1, kept other,
      if_neg fun k => distinct k.1]

/-- Nodes are only touched in cycles; the failure, if any, is that of the last one. -/
def Brackets {α : Type} (failure : α → Option ScenarioError) (m : Scenario ScriptedCluster α) :
    Prop :=
  ∀ s, ∃ nodes, Bracketed nodes (failure (m s).1) s.state.cluster (m s).2.state.cluster

namespace Brackets

variable {α β : Type} {failure : α → Option ScenarioError} {result : β → Option ScenarioError}
  {m : Scenario ScriptedCluster α} {f : α → Scenario ScriptedCluster β}

theorem of_quiet (h : Keeps Stage.cluster Quiet m) (ok : ∀ s, failure (m s).1 = none) :
    Brackets failure m := by
  intro s
  rw [ok s]
  exact ⟨[], (h s).bracketed⟩

theorem pure {a : α} (ok : failure a = none) : Brackets failure (Pure.pure a) :=
  of_quiet (Keeps.pure a) fun _ => ok

/-- A run goes on only if no cycle has failed; otherwise it ends with that failure and touches no
other node. -/
theorem bind (hm : Brackets failure m) (go : ∀ a, failure a = none → Brackets result (f a))
    (stop : ∀ a e, failure a = some e →
      Keeps Stage.cluster Quiet (f a) ∧ ∀ s, result (f a s).1 = some e) :
    Brackets result (m >>= f) := by
  intro s
  obtain ⟨first, hf⟩ := hm s
  cases failed : failure (m s).1 with
  | none =>
    rw [failed] at hf
    obtain ⟨second, hs⟩ := go (m s).1 failed (m s).2
    exact ⟨first ++ second, hf.append hs⟩
  | some e =>
    obtain ⟨still, same⟩ := stop (m s).1 e failed
    rw [failed, ← same (m s).2] at hf
    exact ⟨first, hf.quiet (still (m s).2)⟩

theorem quiet_bind (hm : Keeps Stage.cluster Quiet m) (go : ∀ a, Brackets result (f a)) :
    Brackets result (m >>= f) :=
  @bind _ _ (fun _ => none) _ _ _ (of_quiet hm fun _ => rfl) (fun a _ => go a)
    (fun a e h => by cases h)

end Brackets

/-- After the cordon, whatever its answer was, no node is touched before the uncordon. -/
theorem nodeRecord_quiet (node : String) (s : Timed (Stage ScriptedCluster)) :
    Quiet (client.perform (.setSchedulable node false) s.state.cluster).2
      (nodeRecord client settings w node s).2.state.cluster := by
  have called : (Scenario.perform client (.setSchedulable node false) s).2.state.cluster =
    (client.perform (.setSchedulable node false) s.state.cluster).2 := rfl
  rw [← called]
  unfold nodeRecord
  simp only [bind, StateT.bind]
  generalize Scenario.perform client (.setSchedulable node false) s = answered
  obtain ⟨reply, after⟩ := answered
  cases reply with
  | error e => exact refl after.state.cluster
  | ok _ => exact drainNode_quiet settings w node after

theorem uncordon_eq (node : String) (s : Timed (Stage ScriptedCluster)) :
    failure? (uncordon client node s).1 =
        (failure? (client.perform (.setSchedulable node true) s.state.cluster).1).map
          (ScenarioError.uncordonFailed node) ∧
      (uncordon client node s).2.state.cluster =
        (client.perform (.setSchedulable node true) s.state.cluster).2 := by
  have reply : (client.perform (.setSchedulable node true) s.state.cluster).1 =
    (Scenario.perform client (.setSchedulable node true) s).1 := rfl
  have cluster : (client.perform (.setSchedulable node true) s.state.cluster).2 =
    (Scenario.perform client (.setSchedulable node true) s).2.state.cluster := rfl
  rw [reply, cluster]
  simp only [uncordon, bind, StateT.bind]
  generalize Scenario.perform client (.setSchedulable node true) s = answered
  obtain ⟨reply, after⟩ := answered
  cases reply with
  | error e => exact ⟨rfl, rfl⟩
  | ok _ => exact ⟨rfl, rfl⟩

/-- The records of the nodes from one on: none follows if it stays cordoned. -/
def goOn (nodes : List String) (r : NodeRecord × Except ScenarioError Unit) :
    Scenario ScriptedCluster (List NodeRecord × Except ScenarioError Unit) :=
  match r.2 with
  | .error e => pure ([r.1], .error e)
  | .ok _ => do
    let (rs, result) ← disruptNodes client settings w nodes
    pure (r.1 :: rs, result)

theorem cycle_brackets (node : String) :
    Brackets (fun r => failure? r.2) (do
      let r ← nodeRecord client settings w node
      let result ← uncordon client node
      pure (r, result)) := by
  intro s
  refine ⟨[node], ?_⟩
  change Bracketed [node]
    (failure? (uncordon client node (nodeRecord client settings w node s).2).1) s.state.cluster
    (uncordon client node (nodeRecord client settings w node s).2).2.state.cluster
  obtain ⟨failed, cluster⟩ := uncordon_eq node (nodeRecord client settings w node s).2
  rw [failed, cluster]
  exact cycle_bracketed (nodeRecord_quiet settings w node s)

theorem disruptNodes_brackets (nodes : List String) :
    Brackets (fun r => failure? r.2) (disruptNodes client settings w nodes) := by
  induction nodes with
  | nil => exact Brackets.pure rfl
  | cons node nodes ih =>
    refine (cycle_brackets settings w node).bind (f := goOn settings w nodes) ?_ ?_
    · rintro ⟨r, e | _⟩ failed
      · cases failed
      · exact ih.bind (fun rest ok => Brackets.pure ok) fun rest e failed =>
          ⟨Keeps.pure _, fun _ => failed⟩
    · rintro ⟨r, e | _⟩ e' failed
      · exact ⟨Keeps.pure _, fun _ => failed⟩
      · cases failed

theorem drive_brackets : Brackets (fun r => failure? r.2) (drive client settings w) := by
  refine Brackets.quiet_bind (waitReady_quiet settings w _) fun baseline => ?_
  dsimp only
  split
  · exact Brackets.pure rfl
  · refine Brackets.quiet_bind (Scenario.keeps_perform (quiet_perform (by simp))) fun listed => ?_
    cases listed with
    | error e => exact Brackets.pure rfl
    | ok pods =>
      dsimp only
      split
      · exact Brackets.pure rfl
      · exact (disruptNodes_brackets settings w _).bind
          (fun r ok => Brackets.pure ((failure?_map _ r.2).trans ok))
          fun r e failed => ⟨Keeps.pure _, fun _ => (failure?_map _ r.2).trans failed⟩

theorem runFrom_brackets (done : List WorkloadReport) (ws : List WorkloadRef) :
    Brackets Prod.snd (runFrom client settings done ws) := by
  induction ws generalizing done with
  | nil => exact Brackets.pure rfl
  | cons w ws ih =>
    refine (drive_brackets settings w).bind ?_ ?_
    · rintro ⟨records, e | ⟨verdict, reason⟩⟩ ok
      · cases ok
      · exact Brackets.quiet_bind (Scenario.keeps_report _) fun _ => ih _
    · rintro ⟨records, e | ⟨verdict, reason⟩⟩ e' failed
      · exact ⟨Keeps.bind (Scenario.keeps_report _) fun _ => Keeps.pure _, fun _ => failed⟩
      · cases failed

/-- Whatever fails on the way, a run cordons and uncordons its nodes in turn, and leaves every one
of them schedulable, except a node that it reports as stranded. -/
theorem run_takes_cordons_back (ws : List WorkloadRef) (s : Timed (Stage ScriptedCluster)) :
    let before := s.state.cluster
    let after := (run client settings ws s).2.state.cluster
    let failure := (run client settings ws s).1.2
    ∃ (calls : List Call) (nodes : List String),
      after.calls = before.calls ++ calls ∧ switches calls = nodes.flatMap bracket ∧
      (∀ node ∈ nodes, (∀ source, failure ≠ some (.uncordonFailed node source)) →
        after.isSchedulable node = true) ∧
      (∀ e, failure = some e → ∃ node ∈ nodes, ∃ source, e = .uncordonFailed node source ∧
        (after.isSchedulable node = false ↔
          (client.perform (.setSchedulable node false) before).1 = .ok () ∨
            before.isSchedulable node = false)) ∧
      ∀ node ∉ nodes, after.isSchedulable node = before.isSchedulable node := by
  intro before after failure
  obtain ⟨nodes, h⟩ := runFrom_brackets settings [] ws s
  obtain ⟨calls, appended, switched⟩ := h.calls
  refine ⟨calls, nodes, appended, switched, ?_, ?_, h.frame⟩
  · exact fun node hn ok => (h.restored node hn ok).2
  · intro e he
    obtain ⟨node, source, named, hn, -, iff⟩ := h.stranded e he
    rw [← ScriptedCluster.switch_accepted_iff] at iff
    exact ⟨node, hn, source, named, iff⟩

end Resilience.Drain
