import Resilience.Proofs.Fault.Teardown
import Resilience.Proofs.Scenario.Agreement
/-! # Cleanups decide nothing

The cleanup of a fault injection comes last and makes its deletions one after another, whatever
fails. Nothing before it sees which deletions will fail, and nothing behind it looks at what became
of them but its own report.
-/
namespace Resilience

namespace ScriptedCluster

/-- What is to become of a deletion. -/
def removal (c : ScriptedCluster) (key : ObjectKey) : TeardownStatus :=
  match Dict.find? c.deleteFailures key.kind with
  | some e => if e.isNotFound then .alreadyGone else .failed
  | none => if Dict.contains c.objects key then .deleted else .alreadyGone

variable (c : ScriptedCluster) (m : Mapping) (ns : Option String) (name : String)

/-- A deletion leaves the prospects of every other one. -/
theorem removal_delete_of_ne {key : ObjectKey} (other : key ≠ ⟨m.kind, ns, name⟩) :
    (client.perform (.delete m ns name) c).2.removal key = c.removal key := by
  have setup := sameSetup_perform (.delete m ns name) c
  have object := object?_delete_of_ne c m ns name other
  rw [object?, object?] at object
  rw [removal, removal, setup.deleteFailures, Dict.contains, Dict.contains, object]

def withDeleteFailures (failures : List (String × ClusterError)) : ScriptedCluster :=
  { c with deleteFailures := failures }

/-- Only a deletion sees which deletions fail. -/
theorem perform_withDeleteFailures {call : Call} (h : ∀ m ns name, call ≠ .delete m ns name)
    (failures : List (String × ClusterError)) :
    client.perform call (c.withDeleteFailures failures) =
      ((client.perform call c).1, (client.perform call c).2.withDeleteFailures failures) := by
  cases call with
  | delete m ns name => exact absurd rfl (h m ns name)
  | _ =>
    simp only [client, record, answer, readReadiness, setSchedulable, deletePod, create, list, get,
      object?, withDeleteFailures]
    all_goals (repeat' split) <;> rfl

end ScriptedCluster

namespace Fault

open ScriptedCluster (client)

theorem statusOf_delete (c : ScriptedCluster) (m : Mapping) (ns : Option String) (name : String) :
    statusOf (client.perform (.delete m ns name) c).1 = c.removal ⟨m.kind, ns, name⟩ := by
  rcases ScriptedCluster.delete_cases c m ns name with
    ⟨e, failing, performed⟩ | ⟨none, there, performed⟩ | ⟨none, absent, performed⟩
  · simp only [performed, ScriptedCluster.removal, failing]
    rfl
  · simp only [performed, ScriptedCluster.removal, none, there, if_true]
    rfl
  · simp only [performed, ScriptedCluster.removal, none, absent, Bool.false_eq_true, if_false]
    rfl

structure CleansUp (ns : String) (targets : List (Mapping × String))
    (before after : ScriptedCluster) (report : TeardownReport) : Prop where
  calls : after.calls = before.calls ++ targets.map fun t => .delete t.1 (some ns) t.2
  steps : report.steps = targets.map fun t =>
    ⟨t.1.kind, t.2, before.removal ⟨t.1.kind, some ns, t.2⟩⟩
  warnings : report.warnings.map (fun w => (w.kind, w.name)) =
    (report.steps.filter fun step => step.status = .failed).map fun step => (step.kind, step.name)
  messages : ∀ w ∈ report.warnings, ∃ e, Dict.find? before.deleteFailures w.kind = some e ∧
    w.error = e.message
  frame : ∀ key, key ∉ targets.map (fun t => (⟨t.1.kind, some ns, t.2⟩ : ObjectKey)) →
    after.object? key = before.object? key

theorem warning?_status {α : Type} (m : Mapping) (name : String) (reply : Except ClusterError α) :
    (warning? m name reply).toList.map (fun w => (w.kind, w.name)) =
      if statusOf reply = .failed then [(m.kind, name)] else [] := by
  cases reply with
  | ok u => rfl
  | error e => by_cases gone : e.isNotFound = true <;> simp [warning?, statusOf, gone]

theorem mem_warning?_delete {c : ScriptedCluster} {m : Mapping} {ns : Option String}
    {name : String} {w : CleanupWarning}
    (h : w ∈ (warning? m name (client.perform (.delete m ns name) c).1).toList) :
    ∃ e, Dict.find? c.deleteFailures w.kind = some e ∧ w.error = e.message := by
  rcases ScriptedCluster.delete_cases c m ns name with
    ⟨e, failing, performed⟩ | ⟨-, -, performed⟩ | ⟨-, -, performed⟩
  · rw [performed] at h
    by_cases gone : e.isNotFound = true
    · simp [warning?, gone] at h
    · simp only [warning?, if_neg gone, Option.toList_some, List.mem_singleton] at h
      subst h
      exact ⟨e, failing, rfl⟩
  · rw [performed] at h
    cases h
  · rw [performed] at h
    cases h

/-- A deletion before a cleanup that has no other one with its key, so that each finds what there
was in the beginning. -/
theorem CleansUp.cons {ns : String} {t : Mapping × String} {targets : List (Mapping × String)}
    {c after : ScriptedCluster} {report : TeardownReport}
    (rest : CleansUp ns targets (client.perform (.delete t.1 (some ns) t.2) c).2 after report)
    (new : (⟨t.1.kind, some ns, t.2⟩ : ObjectKey) ∉
      targets.map fun u => (⟨u.1.kind, some ns, u.2⟩ : ObjectKey)) :
    let reply := (client.perform (.delete t.1 (some ns) t.2) c).1
    CleansUp ns (t :: targets) c after
      ⟨⟨t.1.kind, t.2, statusOf reply⟩ :: report.steps,
        (warning? t.1 t.2 reply).toList ++ report.warnings⟩ := by
  intro reply
  constructor
  case calls =>
    rw [rest.calls, ScriptedCluster.calls_perform, List.append_assoc]
    rfl
  case steps =>
    dsimp only
    rw [List.map_cons, statusOf_delete, rest.steps]
    refine congrArg (List.cons _) (List.map_congr_left ?_)
    intro u hu
    have other : (⟨u.1.kind, some ns, u.2⟩ : ObjectKey) ≠ ⟨t.1.kind, some ns, t.2⟩ := by
      intro same
      exact new (List.mem_map.mpr ⟨u, hu, same⟩)
    rw [ScriptedCluster.removal_delete_of_ne _ _ _ _ other]
  case warnings =>
    dsimp only
    rw [List.map_append, warning?_status, rest.warnings, List.filter_cons]
    by_cases failed : statusOf reply = .failed
    · simp [failed]
    · simp [failed]
  case messages =>
    intro w hw
    rcases List.mem_append.mp hw with hw | hw
    · exact mem_warning?_delete hw
    · obtain ⟨e, failing, message⟩ := rest.messages w hw
      have setup := ScriptedCluster.sameSetup_perform (.delete t.1 (some ns) t.2) c
      exact ⟨e, setup.deleteFailures ▸ failing, message⟩
  case frame =>
    intro key outside
    rw [List.map_cons, List.mem_cons, not_or] at outside
    rw [rest.frame key outside.2]
    exact ScriptedCluster.object?_delete_of_ne _ _ _ _ outside.1

theorem deleteObjects_cleansUp (ns : String) (targets : List (Mapping × String))
    (distinct : (targets.map fun t => (⟨t.1.kind, some ns, t.2⟩ : ObjectKey)).Nodup)
    (s : Timed (Stage ScriptedCluster)) :
    CleansUp ns targets s.state.cluster (deleteObjects client ns targets s).2.state.cluster
        (deleteObjects client ns targets s).1 ∧
      (deleteObjects client ns targets s).2.state.reports = s.state.reports := by
  induction targets generalizing s with
  | nil =>
    refine ⟨⟨(List.append_nil _).symm, rfl, rfl, ?_, fun _ _ => rfl⟩, rfl⟩
    intro w hw
    cases hw
  | cons t targets ih =>
    obtain ⟨new, distinct⟩ := List.nodup_cons.mp distinct
    obtain ⟨rest, silent⟩ :=
      ih distinct (Scenario.perform client (.delete t.1 (some ns) t.2) s).2
    rw [deleteObjects_cons]
    exact ⟨rest.cons new, silent⟩

section Attempts

variable {σ : Type} {client : Client σ} {R : Stage σ → Stage σ → Prop}
  (alike : ∀ call : Call, (∀ m ns name, call ≠ .delete m ns name) →
    Scenario.AnswersAlike client R call)
include alike

theorem createDocument_agrees (document : Json) : Agrees R (createDocument client document) := by
  apply (Scenario.agrees_perform (alike _ (by simp))).bind
  rintro (e | mapping) -
  · exact Agrees.pure _
  · apply (Scenario.agrees_perform (alike _ (by simp))).bind
    rintro (e | u) -
    · exact Agrees.pure _
    · exact Agrees.pure _

theorem createDocuments_agrees (documents : List Json) :
    Agrees R (createDocuments client documents) := by
  induction documents with
  | nil => exact Agrees.pure _
  | cons d ds ih =>
    apply (createDocument_agrees alike d).bind
    rintro (e | object) -
    · exact Agrees.pure _
    · exact ih.bind fun rest _ => Agrees.pure _

theorem applyTemplates_agrees (source : TemplateSource) (values : TemplateValues)
    (names : List String) : Agrees R (applyTemplates client source values names) := by
  induction names with
  | nil => exact Agrees.pure _
  | cons name names ih =>
    unfold applyTemplates
    cases source.render name values with
    | error e => exact Agrees.pure _
    | ok documents =>
      apply (createDocuments_agrees alike documents).bind
      rintro ⟨objects, e | u⟩ -
      · exact Agrees.pure _
      · exact ih.bind fun rest _ => Agrees.pure _

theorem waitForCompletion_agrees (settings : FaultInjectionSettings) (ns : String) :
    Agrees R (waitForCompletion client settings ns) := by
  apply (Scenario.agrees_watch (alike _ (by simp)) _ _ _ _).bind
  rintro ⟨outcome, failure⟩ -
  cases outcome with
  | converged | timedOut | aborted => exact Agrees.pure _

theorem readVerdict_agrees (ns : String) : Agrees R (readVerdict client ns) := by
  apply (Scenario.agrees_perform (alike _ (by simp))).bind
  rintro (e | items) -
  · exact Agrees.pure _
  · dsimp only
    split
    · exact Agrees.pure _
    · exact Agrees.pure _
    · exact Agrees.pure _

/-- An attempt makes no deletion, so it comes to the same where every other call is answered
alike. -/
theorem attempt_agrees (settings : FaultInjectionSettings) (source : TemplateSource)
    (target : FaultTarget) : Agrees R (attempt client settings source target) := by
  apply (applyTemplates_agrees alike source target.templateValues _).bind
  rintro ⟨created, e | u⟩ -
  · exact Agrees.pure _
  · apply (waitForCompletion_agrees alike settings _).bind
    rintro (e | wait) -
    · exact Agrees.pure _
    · exact (readVerdict_agrees alike _).bind fun result _ => Agrees.pure _

end Attempts

structure SameButDeletions (failures : List (String × ClusterError))
    (reports reports' : List ScenarioReport) (t t' : Stage ScriptedCluster) : Prop where
  cluster : t'.cluster = t.cluster.withDeleteFailures failures
  reported : t.reports = reports
  reported' : t'.reports = reports'

theorem sameButDeletions_answersAlike (failures : List (String × ClusterError))
    (reports reports' : List ScenarioReport) {call : Call}
    (h : ∀ m ns name, call ≠ .delete m ns name) :
    Scenario.AnswersAlike client (SameButDeletions failures reports reports') call := by
  rintro t t' ⟨cluster, reported, reported'⟩
  have performed := ScriptedCluster.perform_withDeleteFailures t.cluster h failures
  rw [← cluster] at performed
  rw [performed]
  exact ⟨rfl, rfl, reported, reported'⟩

theorem teardownKeys_nodup (experiment ns : String) : (teardownKeys experiment ns).Nodup := by
  have kinds : ((teardownKeys experiment ns).map ObjectKey.kind).Nodup := by
    change ["ChaosEngine", "ServiceAccount", "Role", "RoleBinding", "ChaosExperiment",
      "ChaosResult"].Nodup
    decide
  exact kinds.of_map _

theorem teardown_cleansUp (settings : FaultInjectionSettings) (ns : String)
    (s : Timed (Stage ScriptedCluster)) :
    CleansUp ns (teardownTargets settings.experiment) s.state.cluster
        (teardown client settings ns s).2.state.cluster (teardown client settings ns s).1 ∧
      (teardown client settings ns s).2.state.reports = s.state.reports := by
  have distinct := teardownKeys_nodup settings.experiment ns
  rw [teardownKeys] at distinct
  unfold teardown
  generalize teardownTargets settings.experiment = targets at distinct ⊢
  exact deleteObjects_cleansUp ns targets distinct s

/-- An attempt does not see which deletions will fail. -/
theorem attempt_sameButDeletions (settings : FaultInjectionSettings) (source : TemplateSource)
    (target : FaultTarget) (s : Timed (Stage ScriptedCluster)) (clock : Clock)
    (failures : List (String × ClusterError)) (reports : List ScenarioReport) :
    let a := attempt client settings source target s
    let a' := attempt client settings source target
      ⟨clock, ⟨s.state.cluster.withDeleteFailures failures, reports⟩⟩
    a.1 = a'.1 ∧ SameButDeletions failures s.state.reports reports a.2.state a'.2.state := by
  have agrees : Agrees (SameButDeletions failures s.state.reports reports)
      (attempt client settings source target) :=
    attempt_agrees (fun call h => sameButDeletions_answersAlike failures _ _ h) settings source
      target
  exact agrees s ⟨clock, ⟨s.state.cluster.withDeleteFailures failures, reports⟩⟩ ⟨rfl, rfl, rfl⟩

/-- Which deletions fail decides nothing but the report of the cleanup: whatever the clock shows,
everything else that is reported and everything that is called stays the same. Every run ends with
its six deletions, warns of those that failed and touches no other object by them. -/
theorem run_independent_of_cleanup (settings : FaultInjectionSettings) (source : TemplateSource)
    (target : FaultTarget) (s : Timed (Stage ScriptedCluster)) :
    let r := run client settings source target s
    CleansUp target.workload.namespaceName (teardownTargets settings.experiment)
        (attempt client settings source target s).2.state.cluster r.2.state.cluster
        r.1.teardown ∧
      r.2.state.reports = s.state.reports ++ [r.1.scenarioReport] ∧
      ∀ (clock : Clock) (failures : List (String × ClusterError)) (reports : List ScenarioReport),
        let r' := run client settings source target
          ⟨clock, ⟨s.state.cluster.withDeleteFailures failures, reports⟩⟩
        r'.1 = { r.1 with teardown := r'.1.teardown } ∧
          r'.2.state.cluster.calls = r.2.state.cluster.calls ∧
          r'.2.state.reports = reports ++ [r.1.scenarioReport] := by
  intro r
  have silent : (attempt client settings source target s).2.state.reports = s.state.reports :=
    (attempt_sameButDeletions settings source target s {} [] []).2.reported
  have agrees := attempt_sameButDeletions settings source target s
  obtain ⟨cleaned, kept⟩ := teardown_cleansUp settings target.workload.namespaceName
    (attempt client settings source target s).2
  have ran : r = _ := run_eq client settings source target s
  clear_value r
  subst ran
  -- only what is known of the attempt and its cleanup is to be looked at
  generalize attempt client settings source target s = a at *
  generalize teardown client settings target.workload.namespaceName a.2 = t at *
  refine ⟨cleaned, ?reported, ?other⟩
  case reported =>
    dsimp only
    rw [kept, silent]
  case other =>
    intro clock failures reports r'
    let s' : Timed (Stage ScriptedCluster) :=
      ⟨clock, ⟨s.state.cluster.withDeleteFailures failures, reports⟩⟩
    obtain ⟨same, alike⟩ := agrees clock failures reports
    obtain ⟨cleaned', kept'⟩ := teardown_cleansUp settings target.workload.namespaceName
      (attempt client settings source target s').2
    have ran' : r' = _ := run_eq client settings source target s'
    clear_value r'
    subst ran'
    generalize attempt client settings source target s' = a' at *
    generalize teardown client settings target.workload.namespaceName a'.2 = t' at *
    dsimp only
    rw [← same]
    refine ⟨reportOf_eq settings target a.1 t.1 t'.1, ?_, ?_⟩
    · rw [cleaned'.calls, cleaned.calls, alike.cluster]
      rfl
    · rw [kept', alike.reported', scenarioReport_reportOf settings target a.1 t.1 t'.1]

end Fault
end Resilience
