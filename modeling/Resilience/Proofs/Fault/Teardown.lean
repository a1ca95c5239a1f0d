import Resilience.Proofs.Fault.Create
import Resilience.Proofs.Fault.Run
/-! # What a fault injection leaves

Objects are created under the names in their documents and deleted under six fixed ones. What was
created is in the store until the cleanup, and the cleanup takes out what lies at its six places.
-/
namespace Resilience.Fault

open ScriptedCluster (client Grown OwnNames SameSetup)

def teardownKeys (experiment ns : String) : List ObjectKey :=
  (teardownTargets experiment).map fun t => ⟨t.1.kind, some ns, t.2⟩

variable (settings : FaultInjectionSettings)

theorem waitForCompletion_grown (ns : String) :
    Keeps Stage.cluster Grown (waitForCompletion client settings ns) := by
  refine Keeps.bind (Scenario.keeps_watch (ScriptedCluster.grown_perform (by simp)) _ _ _ _) ?_
  rintro ⟨outcome, failure⟩
  cases outcome <;> exact Keeps.pure _

theorem readVerdict_grown (ns : String) :
    Keeps Stage.cluster Grown (readVerdict client ns) := by
  refine Keeps.bind (Scenario.keeps_perform (ScriptedCluster.grown_perform (by simp))) ?_
  rintro (e | items)
  · exact Keeps.pure _
  · dsimp only
    split <;> exact Keeps.pure _

/-- Waiting and reading leave what was created, so it is all there before the cleanup. -/
theorem attempt_adds {kinds : Kinds} (source : TemplateSource) (target : FaultTarget) :
    Adds kinds (fun _ => True) [] Attempt.created (attempt client settings source target) := by
  refine (apply_adds fun _ _ _ _ _ _ => trivial).bind ?_
  rintro ⟨created, e | u⟩ -
  · exact Adds.pure (by simp)
  · refine (Adds.of_keeps (waitForCompletion_grown settings _)).bind ?_
    rintro (e | wait) -
    · exact Adds.pure (by simp)
    · refine (Adds.of_keeps (readVerdict_grown _)).bind fun result _ => Adds.pure ?_
      simp

/-- Each deletion takes out its own place only, so the places that were emptied are those of the
list. -/
theorem object?_deleteObjects (ns : String) (targets : List (Mapping × String)) (key : ObjectKey)
    (s : Timed (Stage ScriptedCluster)) (free : s.state.cluster.deleteFailures = []) :
    (deleteObjects client ns targets s).2.state.cluster.object? key =
      if key ∈ targets.map (fun t => (⟨t.1.kind, some ns, t.2⟩ : ObjectKey)) then none
      else s.state.cluster.object? key := by
  induction targets generalizing s with
  | nil => rfl
  | cons t targets ih =>
    have once := ScriptedCluster.object?_delete free t.1 (some ns) t.2 key
    have setup := ScriptedCluster.sameSetup_perform (.delete t.1 (some ns) t.2) s.state.cluster
    rw [deleteObjects_cons, ih _ (setup.deleteFailures.trans free)]
    change (if _ then none else (client.perform (.delete t.1 (some ns) t.2)
      s.state.cluster).2.object? key) = _
    rw [once]
    by_cases first : key = ⟨t.1.kind, some ns, t.2⟩
    · simp [first]
    · simp only [first, List.map_cons, List.mem_cons, false_or, if_false]

/-- A run ends with its cleanup, and reports what was created before it. -/
theorem run_eq_teardown (source : TemplateSource) (target : FaultTarget)
    (s : Timed (Stage ScriptedCluster)) :
    let a := attempt client settings source target s
    (run client settings source target s).1.created = a.1.created ∧
    (run client settings source target s).2.state.cluster =
      (teardown client settings target.workload.namespaceName a.2).2.state.cluster := by
  rw [run_eq]
  dsimp only
  generalize attempt client settings source target s = a
  generalize teardown client settings target.workload.namespaceName a.2 = t
  exact ⟨rfl, rfl⟩

/-- After a run, with any verdict, a created object is left exactly if it is none of those that
the cleanup deletes by name in the namespace of the target. -/
theorem run_leaves_iff (source : TemplateSource) (target : FaultTarget)
    (s : Timed (Stage ScriptedCluster)) (own : s.state.cluster.OwnNames)
    (free : s.state.cluster.deleteFailures = []) :
    ∀ o ∈ (run client settings source target s).1.created,
      ((run client settings source target s).2.state.cluster.object? o.key).isSome ↔
        o.key ∉ teardownKeys settings.experiment target.workload.namespaceName := by
  obtain ⟨created, cluster⟩ := run_eq_teardown settings source target s
  obtain ⟨grown, stored⟩ := attempt_adds settings source target s rfl own
    (fun _ h => by cases h)
  rw [created, cluster]
  intro o ho
  obtain ⟨held, found⟩ := (stored o ho).held
  have emptied := object?_deleteObjects target.workload.namespaceName
    (teardownTargets settings.experiment) o.key (attempt client settings source target s).2
    (grown.setup.deleteFailures.trans free)
  rw [teardown, emptied, found, teardownKeys]
  split
  · next gone => simp [gone]
  · next kept => simp [kept]

/-- Templates that create an account of a name of their own and then fail. -/
def strayTemplates : TemplateSource where
  files := ⟨[
    (["t", "experiment-delete.yaml"],
      .text "{apiVersion: v1, kind: ServiceAccount, metadata: {name: x}}"),
    (["t", "service-account.yaml"], .text "-")]⟩
  directory := some "t"

def plainTarget : FaultTarget := ⟨⟨defaultNamespace, "web", .deployment⟩, "app=web"⟩

def strayAccount : CreatedObject := ⟨"ServiceAccount", some defaultNamespace, "x"⟩

theorem strayAccount_created :
    strayAccount ∈ (run client {} strayTemplates plainTarget emptyStage).1.created := by
  decide +kernel

theorem run_leaves_strayAccount :
    emptyStage.state.cluster.OwnNames ∧ emptyStage.state.cluster.deleteFailures = [] ∧
      ((run client {} strayTemplates plainTarget emptyStage).2.state.cluster.object?
        strayAccount.key).isSome := by
  have own : emptyStage.state.cluster.OwnNames := ScriptedCluster.ownNames_initial
  refine ⟨own, rfl, ?_⟩
  exact (run_leaves_iff {} strayTemplates plainTarget emptyStage own rfl strayAccount
    strayAccount_created).2 (by decide)

theorem run_may_leave_created :
    ¬ ∀ (settings : FaultInjectionSettings) (source : TemplateSource) (target : FaultTarget)
      (s : Timed (Stage ScriptedCluster)), s.state.cluster.OwnNames →
      s.state.cluster.deleteFailures = [] →
      ∀ o ∈ (run client settings source target s).1.created,
        (run client settings source target s).2.state.cluster.object? o.key = none := by
  intro claimed
  have gone := claimed {} strayTemplates plainTarget emptyStage ScriptedCluster.ownNames_initial
    rfl strayAccount strayAccount_created
  have left : ((run client {} strayTemplates plainTarget emptyStage).2.state.cluster.object?
    strayAccount.key).isSome := by decide +kernel
  rw [gone] at left
  cases left

end Resilience.Fault
