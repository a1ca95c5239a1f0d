import Mathlib
import Resilience.Proofs.Cluster.Listing
import Resilience.Proofs.Fault.Completion
import Resilience.Proofs.Fault.Create
import Resilience.Proofs.Fault.Prefix
import Resilience.Proofs.Fault.Run
import Resilience.Proofs.Scenario.Log
/-! # What decides the verdict on a fault

The verdict follows from three things: whether the objects could be created, the first listing of
engines in time that settles the wait, and the listing of results behind it.
-/
namespace Resilience.Fault

open Poll (checkLimit)
open ScriptedCluster (client)

/-! ## Listings of engines and of results -/

/-- A listing of exactly one engine, which has completed the experiment. -/
def ShowsCompleted (experiment : String) (answer : Except ClusterError (List Json)) : Prop :=
  ∃ engine status, answer = .ok [engine] ∧ EngineStatus.ofObject engine = .ok status ∧
    Completed experiment status

/-- Of so many listings the first that settles anything shows the experiment completed. -/
def CompletesWithin (experiment : String) (limit : Nat)
    (answers : Nat → Except ClusterError (List Json)) : Prop :=
  ∃ k < limit, (∀ j < k, Undecided experiment (answers j)) ∧ ShowsCompleted experiment (answers k)

/-- Of so many listings the first that settles anything is none that shows the experiment
completed. -/
def FailsWithin (experiment : String) (limit : Nat)
    (answers : Nat → Except ClusterError (List Json)) : Prop :=
  ∃ k < limit, (∀ j < k, Undecided experiment (answers j)) ∧ ¬Undecided experiment (answers k) ∧
    ¬ShowsCompleted experiment (answers k)

def ShowsResult (answer : Except ClusterError (List Json)) (r : ResultVerdict) : Prop :=
  ∃ object, answer = .ok [object] ∧ ResultVerdict.ofObject object = .ok r

def Confirms (experiment : String) (r : ResultVerdict) : Prop :=
  r.experiment = experiment ∧ r.verdict = "Pass"

def IsTimeout (e : ScenarioError) : Prop :=
  ∃ what limit lastError, e = .timeout what limit lastError

def IsAttributed (e : ScenarioError) : Prop :=
  e.code.category = .faultInjection ∨ e.code.category = .cluster

theorem isAttributed_setup (stage : SetupStage) (subject reason : String) :
    IsAttributed (.setup stage subject reason) := by
  cases stage with
  | discovery => exact .inr rfl
  | template | create => exact .inl rfl

theorem isAttributed_read (e : ClusterError) : IsAttributed (.read e) := by
  refine .inr ?_
  cases e with
  | api code message => by_cases missing : code = 404 <;> simp [ScenarioError.code, missing,
      ClusterError.code, ErrorCode.category, ErrorCode.number]
  | notFound | transport | decode => rfl

section Judging

variable {experiment : String} {answer : Except ClusterError (List Json)}

theorem Undecided.not_showsCompleted (h : Undecided experiment answer) :
    ¬ShowsCompleted experiment answer := by
  rintro ⟨engine, status, rfl, parsed, completed⟩
  cases h with
  | running parsed' incomplete =>
    cases parsed.symm.trans parsed'
    exact incomplete completed

theorem Settles.showsCompleted {elapsed : Duration} {attempts : Nat} {outcome : PollOutcome}
    (h : Settles experiment elapsed attempts answer (.ok outcome)) :
    ShowsCompleted experiment answer := by
  cases h with
  | completed parsed complete => exact ⟨_, _, rfl, parsed, complete⟩

/-- A listing that ends the wait with a failure shows no completed experiment, and the failure is an
attributed one. -/
theorem Settles.failed {elapsed : Duration} {attempts : Nat} {e : ScenarioError}
    (h : Settles experiment elapsed attempts answer (.error e)) :
    ¬ShowsCompleted experiment answer ∧ IsAttributed e := by
  cases h with
  | several many =>
    refine ⟨?_, .inl rfl⟩
    rintro ⟨engine, status, same, -⟩
    cases same
    simp at many
  | unparsed failed =>
    refine ⟨?_, .inl rfl⟩
    rintro ⟨engine, status, same, parsed, -⟩
    cases same
    cases failed.symm.trans parsed

end Judging

/-! ## The wait and what comes behind it -/

section Ends

variable {experiment : String} {limit : Nat} {answers : Nat → Except ClusterError (List Json)}

theorem CompletesWithin.not_all_undecided (h : CompletesWithin experiment limit answers) :
    ¬∀ k < limit, Undecided experiment (answers k) := by
  obtain ⟨k, inTime, -, shows⟩ := h
  exact fun all => (all k inTime).not_showsCompleted shows

theorem FailsWithin.not_all_undecided (h : FailsWithin experiment limit answers) :
    ¬∀ k < limit, Undecided experiment (answers k) := by
  obtain ⟨k, inTime, -, decided, -⟩ := h
  exact fun all => decided (all k inTime)

theorem FailsWithin.not_completesWithin (h : FailsWithin experiment limit answers) :
    ¬CompletesWithin experiment limit answers := by
  obtain ⟨k, -, before, decided, other⟩ := h
  rintro ⟨i, -, before', shows⟩
  -- there is only one first listing that settles anything
  rcases Nat.lt_trichotomy i k with earlier | rfl | later
  · exact (before i earlier).not_showsCompleted shows
  · exact other shows
  · exact decided (before' k later)

inductive WaitEnds (experiment : String) (limit : Nat)
    (answers : Nat → Except ClusterError (List Json)) : Except ScenarioError PollOutcome → Prop
  | completed (h : CompletesWithin experiment limit answers) (outcome : PollOutcome) :
      WaitEnds experiment limit answers (.ok outcome)
  | ranOut (h : ∀ k < limit, Undecided experiment (answers k)) {e : ScenarioError}
      (source : IsTimeout e) : WaitEnds experiment limit answers (.error e)
  | failed (h : FailsWithin experiment limit answers) {e : ScenarioError}
      (source : IsAttributed e) : WaitEnds experiment limit answers (.error e)

end Ends

section Runs

variable {σ : Type} (client : Client σ) (settings : FaultInjectionSettings) (ns : String)

theorem waitForCompletion_ends (paced : 0 < settings.pollInterval.nanos)
    (s : Timed (Stage σ)) :
    WaitEnds settings.experiment (checkLimit settings.pollInterval settings.waitTimeout)
        (client.answerAfter (.list engines (some ns)) s.state.cluster)
        (waitForCompletion client settings ns s).1 ∧
      ∃ k, (waitForCompletion client settings ns s).2.state.cluster =
        client.repeated (.list engines (some ns)) s.state.cluster k := by
  obtain ⟨k, first, concludes, -, looked⟩ :=
    waitForCompletion_course client settings ns s paced
  have inTime := first.inTime
  have unsettled : ∀ j < k, Undecided settings.experiment
      (client.answerAfter (.list engines (some ns)) s.state.cluster j) := fun j hj =>
    judge_isOpen_iff.mp (first.unsettled j hj)
  refine ⟨?_, k + 1, looked.cluster⟩
  generalize (waitForCompletion client settings ns s).1 = result at concludes
  cases concludes with
  | settled settles =>
    cases result with
    | ok outcome => exact .completed ⟨k, inTime, unsettled, settles.showsCompleted⟩ outcome
    | error e =>
      obtain ⟨other, source⟩ := settles.failed
      exact .failed ⟨k, inTime, unsettled, settles.not_undecided, other⟩ source
  | ranOut undecided last =>
    refine .ranOut (fun j hj => ?_) ⟨_, _, _, rfl⟩
    rcases (Nat.lt_succ_iff.mp (last ▸ hj)).lt_or_eq with before | rfl
    · exact unsettled j before
    · exact undecided

inductive ReadEnds (answer : Except ClusterError (List Json)) :
    Except ScenarioError ResultVerdict → Prop
  | shown {r : ResultVerdict} (h : ShowsResult answer r) : ReadEnds answer (.ok r)
  | failed (h : ∀ r, ¬ShowsResult answer r) {e : ScenarioError} (source : IsAttributed e) :
      ReadEnds answer (.error e)

theorem readVerdict_ends (s : Timed (Stage σ)) :
    ReadEnds (client.answerAfter (.list results (some ns)) s.state.cluster 0)
      (readVerdict client ns s).1 := by
  have called : (Scenario.perform client (.list results (some ns)) s).1 =
    client.answerAfter (.list results (some ns)) s.state.cluster 0 := rfl
  rw [← called]
  simp only [readVerdict, bind, StateT.bind]
  generalize Scenario.perform client (.list results (some ns)) s = answered
  obtain ⟨answer, after⟩ := answered
  match answer with
  | .error e =>
    refine .failed ?_ (isAttributed_read e)
    rintro r ⟨object, same, -⟩
    cases same
  | .ok [] =>
    refine .failed ?_ (.inl rfl)
    rintro r ⟨object, same, -⟩
    cases same
  | .ok [object] =>
    dsimp only
    cases parsed : ResultVerdict.ofObject object with
    | error e =>
      refine .failed ?_ (.inl rfl)
      rintro r ⟨object', same, parsed'⟩
      cases same
      cases parsed.symm.trans parsed'
    | ok r => exact .shown ⟨object, rfl, parsed⟩
  | .ok (o₁ :: o₂ :: rest) =>
    refine .failed ?_ (.inl rfl)
    rintro r ⟨object, same, -⟩
    cases same

/-- Creating the objects fails in one of its steps, which is an attributed reason. -/
theorem apply_failure (source : TemplateSource) (target : FaultTarget) :
    Logs client (apply client source target) fun r _ => ∀ e, r.2 = .error e → IsAttributed e := by
  apply (applyTemplates_logs client source target.templateValues _).imp
  rintro ⟨created, result⟩ log ⟨placed, -, creates⟩ e failed
  obtain ⟨left, last, -, -, stops⟩ := creates.exists_left
  obtain ⟨stage, subject, reason, rfl⟩ : ∃ stage subject reason,
      e = .setup stage subject reason := by
    rcases stops.failure with final | ⟨stage, subject, reason, setup⟩
    · exact rendered_failure (final.symm.trans failed)
    · cases setup.symm.trans failed
      exact ⟨_, _, _, rfl⟩
  exact isAttributed_setup stage subject reason

inductive AttemptEnds (experiment : String) (limit : Nat) (applied : Except ScenarioError Unit)
    (engines : Nat → Except ClusterError (List Json)) (results : Except ClusterError (List Json)) :
    Except ScenarioError ResultVerdict → Prop
  | unapplied {e : ScenarioError} (h : applied = .error e) (source : IsAttributed e) :
      AttemptEnds experiment limit applied engines results (.error e)
  | unfinished (h : applied = .ok ()) {e : ScenarioError}
      (wait : WaitEnds experiment limit engines (.error e)) :
      AttemptEnds experiment limit applied engines results (.error e)
  | finished (h : applied = .ok ()) {outcome : PollOutcome}
      (wait : WaitEnds experiment limit engines (.ok outcome))
      {result : Except ScenarioError ResultVerdict} (read : ReadEnds results result) :
      AttemptEnds experiment limit applied engines results result

end Runs

/-- Listings of engines leave the listing of results as it was, so both start from the cluster that
the objects were created in. -/
theorem attempt_ends (settings : FaultInjectionSettings) (source : TemplateSource)
    (target : FaultTarget) (paced : 0 < settings.pollInterval.nanos)
    (s : Timed (Stage ScriptedCluster)) :
    let ns := some target.workload.namespaceName
    let applied := apply client source target s
    AttemptEnds settings.experiment (checkLimit settings.pollInterval settings.waitTimeout)
      applied.1.2 (applied.2.state.cluster.listing engines.kind ns)
      (applied.2.state.cluster.listing results.kind ns 0)
      (attempt client settings source target s).1.result := by
  obtain ⟨_, -, -, fails⟩ := apply_failure client source target s
  simp only [attempt, bind, StateT.bind]
  generalize apply client source target s = applied at fails ⊢
  obtain ⟨⟨created, outcome⟩, after⟩ := applied
  cases outcome with
  | error e => exact .unapplied rfl (fails e rfl)
  | ok u =>
    cases u
    dsimp only [StateT.bind]
    obtain ⟨ends, k, reached⟩ := waitForCompletion_ends client settings
      target.workload.namespaceName paced after
    rw [funext fun k => ScriptedCluster.answerAfter_list after.state.cluster engines
      (some target.workload.namespaceName) k] at ends
    generalize waitForCompletion client settings target.workload.namespaceName after = waited
      at ends reached ⊢
    obtain ⟨wait, later⟩ := waited
    cases wait with
    | error e => exact .unfinished rfl ends
    | ok outcome =>
      have read := readVerdict_ends client target.workload.namespaceName later
      -- the listings of engines in between leave the script of results as it was
      have other : results.kind ≠ engines.kind := by decide
      rw [ScriptedCluster.answerAfter_list, reached,
        ScriptedCluster.listing_repeated _ _ _ other] at read
      exact .finished rfl ends read

/-! ## The verdict -/

section Verdicts

variable {experiment : String} {w : WorkloadRef}

theorem ShowsResult.unique {answer : Except ClusterError (List Json)} {r r' : ResultVerdict}
    (h : ShowsResult answer r) (h' : ShowsResult answer r') : r = r' := by
  obtain ⟨object, rfl, parsed⟩ := h
  obtain ⟨_, same, parsed'⟩ := h'
  cases same
  cases parsed.symm.trans parsed'
  rfl

/-- What the objects, the listings of engines and the listing of results have to be like for a
verdict. -/
def Warrants (experiment : String) (limit : Nat) (applied : Except ScenarioError Unit)
    (engines : Nat → Except ClusterError (List Json)) (results : Except ClusterError (List Json)) :
    Verdict → Prop
  | .pass => applied = .ok () ∧ CompletesWithin experiment limit engines ∧
      ∃ r, ShowsResult results r ∧ Confirms experiment r
  | .fail => applied = .ok () ∧ ((∀ k < limit, Undecided experiment (engines k)) ∨
      CompletesWithin experiment limit engines ∧ ∃ r, ShowsResult results r ∧ ¬Confirms experiment r)
  | .error => (∃ e, applied = .error e) ∨ applied = .ok () ∧
      (FailsWithin experiment limit engines ∨
        CompletesWithin experiment limit engines ∧ ∀ r, ¬ShowsResult results r)

variable {limit : Nat} {applied : Except ScenarioError Unit}
  {engines : Nat → Except ClusterError (List Json)} {results : Except ClusterError (List Json)}
  {v v' : Verdict}

theorem Warrants.pass_not_fail (h : Warrants experiment limit applied engines results .pass) :
    ¬Warrants experiment limit applied engines results .fail := by
  obtain ⟨-, completes, r, shows, confirms⟩ := h
  rintro ⟨-, undecided | ⟨-, r', shows', refuted⟩⟩
  · exact completes.not_all_undecided undecided
  · exact refuted (shows.unique shows' ▸ confirms)

theorem Warrants.pass_not_error (h : Warrants experiment limit applied engines results .pass) :
    ¬Warrants experiment limit applied engines results .error := by
  obtain ⟨rfl, completes, r, shows, -⟩ := h
  rintro (⟨_, ⟨⟩⟩ | ⟨-, fails | ⟨-, nothing⟩⟩)
  · exact fails.not_completesWithin completes
  · exact nothing r shows

theorem Warrants.fail_not_error (h : Warrants experiment limit applied engines results .fail) :
    ¬Warrants experiment limit applied engines results .error := by
  obtain ⟨rfl, undecided | ⟨completes, r, shows, -⟩⟩ := h
  · rintro (⟨_, ⟨⟩⟩ | ⟨-, fails | ⟨completes, -⟩⟩)
    · exact fails.not_all_undecided undecided
    · exact completes.not_all_undecided undecided
  · rintro (⟨_, ⟨⟩⟩ | ⟨-, fails | ⟨-, nothing⟩⟩)
    · exact fails.not_completesWithin completes
    · exact nothing r shows

theorem Warrants.unique (h : Warrants experiment limit applied engines results v)
    (h' : Warrants experiment limit applied engines results v') : v = v' := by
  match v, v', h, h' with
  | .pass, .pass, _, _ | .fail, .fail, _, _ | .error, .error, _, _ => rfl
  | .pass, .fail, h, h' | .fail, .pass, h', h => exact absurd h' h.pass_not_fail
  | .pass, .error, h, h' | .error, .pass, h', h => exact absurd h' h.pass_not_error
  | .fail, .error, h, h' | .error, .fail, h', h => exact absurd h' h.fail_not_error

end Verdicts

theorem run_verdict (settings : FaultInjectionSettings) (source : TemplateSource)
    (target : FaultTarget) (s : Timed (Stage ScriptedCluster)) :
    (run client settings source target s).1.verdict =
      (judgeAttempt settings.experiment target.workload
        (attempt client settings source target s).1.result).1 :=
  congrArg (fun r => r.1.verdict) (run_eq client settings source target s)

section SlowEngine

def emptyTemplates : TemplateSource where
  files := ⟨[(["t", "chaos-engine.yaml"], .text ""), (["t", "experiment-delete.yaml"], .text ""),
    (["t", "service-account.yaml"], .text "")]⟩
  directory := some "t"

def shopTarget : FaultTarget := ⟨⟨"shop", "cart", .deployment⟩, "app=cart"⟩

theorem render_emptyTemplates :
    ∀ name ∈ Template.creationOrder,
      emptyTemplates.render name shopTarget.templateValues = .ok [] := by
  have text : ∀ name ∈ Template.creationOrder,
      (emptyTemplates.text name).toOption = some "" := by
    decide +kernel
  have plain : shopTarget.templateValues.substitute "" = "" := by decide +kernel
  intro name h
  have text := text name h
  rw [TemplateSource.render]
  cases read : emptyTemplates.text name with
  | error e =>
    rw [read] at text
    cases text
  | ok t =>
    rw [read] at text
    cases text
    change (decodeDocuments name (shopTarget.templateValues.substitute "")).mapError .object = .ok []
    rw [plain]
    rfl

theorem apply_emptyTemplates (s : Timed (Stage ScriptedCluster)) :
    apply client emptyTemplates shopTarget s = (([], .ok ()), s) := by
  have templates : ∀ names : List String, (∀ name ∈ names, name ∈ Template.creationOrder) →
      applyTemplates client emptyTemplates shopTarget.templateValues names s =
        (([], .ok ()), s) := by
    intro names known
    induction names with
    | nil => rfl
    | cons name names ih =>
      have rendered := render_emptyTemplates name (known name List.mem_cons_self)
      have rest := ih fun other h => known other (List.mem_cons_of_mem _ h)
      rw [applyTemplates, rendered]
      simp only [createDocuments, bind, StateT.bind, pure, StateT.pure, rest]
      rfl
  exact templates _ fun _ h => h

end SlowEngine

end Resilience.Fault
