import Resilience.Fault.Injection
import Resilience.Proofs.Scenario.Watch
/-! # What decides the wait for a fault

The first listing of engines that settles anything decides how the wait for a fault ends. Polling is
given up with a text only; the failure that it stands for is noted beside it, and the two stay in
step.
-/
namespace Resilience.Fault

open Poll (checkLimit)
open Scenario (Looked checkAt noteAfter)

/-! ## Listings of engines -/

def Completed (experiment : String) (status : EngineStatus) : Prop :=
  (∃ e ∈ status.experiments, e.name = experiment) ∧ status.status = some "completed"

inductive Undecided (experiment : String) : Except ClusterError (List Json) → Prop
  | unread (e : ClusterError) : Undecided experiment (.error e)
  | empty : Undecided experiment (.ok [])
  | running {engine : Json} {status : EngineStatus}
      (parsed : EngineStatus.ofObject engine = .ok status)
      (incomplete : ¬Completed experiment status) : Undecided experiment (.ok [engine])

inductive Settles (experiment : String) (elapsed : Duration) (attempts : Nat) :
    Except ClusterError (List Json) → Except ScenarioError PollOutcome → Prop
  | several {items : List Json} (many : 2 ≤ items.length) :
      Settles experiment elapsed attempts (.ok items)
        (.error (.multipleInstances engines.kind items.length))
  | unparsed {engine : Json} {e : ObjectError} (failed : EngineStatus.ofObject engine = .error e) :
      Settles experiment elapsed attempts (.ok [engine]) (.error (.object e))
  | completed {engine : Json} {status : EngineStatus}
      (parsed : EngineStatus.ofObject engine = .ok status)
      (complete : Completed experiment status) :
      Settles experiment elapsed attempts (.ok [engine]) (.ok (.converged elapsed attempts))

def readError? : Except ClusterError (List Json) → Option String
  | .error e => some e.message
  | .ok _ => none

def readErrors (answers : Nat → Except ClusterError (List Json)) (n : Nat) : List String :=
  (List.range n).filterMap fun j => readError? (answers j)

section Judging

variable {experiment ns : String} {failure : Option ScenarioError}
  {answer : Except ClusterError (List Json)} {elapsed : Duration} {attempts : Nat}
  {result : Except ScenarioError PollOutcome}

theorem isCompleted_iff {status : EngineStatus} :
    status.isCompleted experiment = true ↔ Completed experiment status := by
  simp [EngineStatus.isCompleted, Completed]

theorem Settles.not_undecided (h : Settles experiment elapsed attempts answer result) :
    ¬Undecided experiment answer := by
  intro undecided
  cases h with
  | several many =>
    cases undecided with
    | empty | running => simp at many
  | unparsed failed =>
    cases undecided with
    | running parsed => cases failed.symm.trans parsed
  | completed parsed complete =>
    cases undecided with
    | running parsed' incomplete =>
      cases parsed.symm.trans parsed'
      exact incomplete complete

/-- A listing makes one thing of the wait. -/
theorem Settles.unique {result' : Except ScenarioError PollOutcome}
    (h : Settles experiment elapsed attempts answer result)
    (h' : Settles experiment elapsed attempts answer result') : result = result' := by
  cases h with
  | several many =>
    cases h' with
    | several => rfl
    | unparsed | completed => simp at many
  | unparsed failed =>
    cases h' with
    | several many => simp at many
    | unparsed failed' =>
      cases failed.symm.trans failed'
      rfl
    | completed parsed => cases failed.symm.trans parsed
  | completed parsed =>
    cases h' with
    | several many => simp at many
    | unparsed failed => cases failed.symm.trans parsed
    | completed => rfl

variable (experiment answer elapsed attempts) in
theorem undecided_or_settles : Undecided experiment answer ∨
    ∃ result, Settles experiment elapsed attempts answer result := by
  match answer with
  | .error e => exact .inl (.unread e)
  | .ok [] => exact .inl .empty
  | .ok [engine] =>
    cases parsed : EngineStatus.ofObject engine with
    | error e => exact .inr ⟨_, .unparsed parsed⟩
    | ok status =>
      by_cases complete : Completed experiment status
      · exact .inr ⟨_, .completed parsed complete⟩
      · exact .inl (.running parsed complete)
  | .ok (_ :: _ :: _) => exact .inr ⟨_, .several (by simp)⟩

theorem judgeEngines_parsed {engine : Json} {status : EngineStatus}
    (parsed : EngineStatus.ofObject engine = .ok status) :
    judgeEngines experiment [engine] = .ok (status.isCompleted experiment) := by
  rw [judgeEngines, parsed]
  rfl

theorem Undecided.judge_open (h : Undecided experiment answer) :
    (judge experiment ns failure answer).1.IsOpen := by
  cases h with
  | unread | empty => trivial
  | running parsed incomplete =>
    simp only [judge, judgeEngines_parsed parsed,
      Bool.eq_false_iff.mpr (mt isCompleted_iff.mp incomplete)]
    trivial

theorem Settles.judge_holds {outcome : PollOutcome}
    (h : Settles experiment elapsed attempts answer (.ok outcome)) :
    (judge experiment ns failure answer).1 = .holds ∧ outcome = .converged elapsed attempts := by
  cases h with
  | completed parsed complete =>
    refine ⟨?_, rfl⟩
    simp only [judge, judgeEngines_parsed parsed, isCompleted_iff.mpr complete]
    rfl

/-- A failure is noted beside the reason that polling is given up for. -/
theorem Settles.judge_fatal {e : ScenarioError}
    (h : Settles experiment elapsed attempts answer (.error e)) :
    judge experiment ns failure answer = (.fatal e.message, some e) := by
  cases h with
  | @several items many =>
    match items with
    | _ :: _ :: _ => rfl
  | @unparsed engine e failed =>
    have judged : judgeEngines experiment [engine] = .error (.object e) := by
      rw [judgeEngines, failed]
      rfl
    simp only [judge, judged]

theorem judge_isOpen_iff :
    (judge experiment ns failure answer).1.IsOpen ↔ Undecided experiment answer := by
  refine ⟨fun unsettled => ?_, Undecided.judge_open⟩
  rcases undecided_or_settles experiment answer .zero 0 with undecided | ⟨result, settles⟩
  · exact undecided
  · cases result with
    | ok => rw [settles.judge_holds.1] at unsettled; cases unsettled
    | error => rw [settles.judge_fatal] at unsettled; cases unsettled

theorem message?_judge :
    (judge experiment ns failure answer).1.message? = readError? answer := by
  cases answer with
  | error e => rfl
  | ok items =>
    simp only [judge]
    cases judgeEngines experiment items with
    | ok completed => cases completed <;> rfl
    | error e => rfl

end Judging

/-! ## The wait -/

section Waits

variable {σ : Type} (client : Client σ) (settings : FaultInjectionSettings) (ns : String)
  (s : Timed (Stage σ))

def polled : PollOutcome × Option ScenarioError :=
  (Scenario.watch client settings.pollInterval settings.waitTimeout (.list engines (some ns))
    (judge settings.experiment ns) none s).1

def concluded (limit : Duration) :
    PollOutcome × Option ScenarioError → Except ScenarioError PollOutcome
  | (.converged elapsed attempts, _) => .ok (.converged elapsed attempts)
  | (.timedOut _ _ lastError, _) =>
    .error (.timeout s!"chaos engine {engineName} in {ns}" limit lastError)
  | (.aborted reason, failure) => .error (failure.getD (.setup .create engineName reason))

theorem waitForCompletion_eq : waitForCompletion client settings ns s =
    (concluded ns settings.waitTimeout (polled client settings ns s),
      (Scenario.watch client settings.pollInterval settings.waitTimeout (.list engines (some ns))
        (judge settings.experiment ns) none s).2) := by
  simp only [waitForCompletion, polled, bind, StateT.bind]
  generalize Scenario.watch client settings.pollInterval settings.waitTimeout
    (.list engines (some ns)) (judge settings.experiment ns) none s = ended
  obtain ⟨⟨outcome, failure⟩, after⟩ := ended
  cases outcome <;> rfl

theorem errors_checkAt {experiment : String} {c : σ} (n : Nat) :
    Poll.errors (checkAt client (judge experiment ns) none c) n =
      readErrors (client.answerAfter (.list engines (some ns)) c) n := by
  rw [Poll.errors, List.filterMap_map]
  exact List.filterMap_congr fun j _ => message?_judge

/-- How the wait ends that listing number `k` decides, counted from zero: by what that makes of it,
or, if it is the last one in time, with the last error of a listing. -/
inductive Concludes (answers : Nat → Except ClusterError (List Json)) (k : Nat) :
    Except ScenarioError PollOutcome → Prop
  | settled {result : Except ScenarioError PollOutcome} (settles : Settles settings.experiment
      ⟨k * settings.pollInterval.nanos⟩ (k + 1) (answers k) result) : Concludes answers k result
  | ranOut (undecided : Undecided settings.experiment (answers k))
      (last : k + 1 = checkLimit settings.pollInterval settings.waitTimeout) :
      Concludes answers k (.error (.timeout s!"chaos engine {engineName} in {ns}"
        settings.waitTimeout (readErrors answers (k + 1)).getLast?))

/-- How the wait goes that listing number `k` decides. Where polling is given up, the failure that
the listing stands for is the one that is noted. -/
structure Course (k : Nat) : Prop where
  first : Poll.First settings.pollInterval settings.waitTimeout
    (checkAt client (judge settings.experiment ns) none s.state.cluster) k
    (polled client settings ns s).1
  concludes : Concludes settings ns (client.answerAfter (.list engines (some ns)) s.state.cluster)
    k (waitForCompletion client settings ns s).1
  failed : ∀ reason, (polled client settings ns s).1 = .aborted reason →
    ∃ e, (polled client settings ns s).2 = some e ∧
      (waitForCompletion client settings ns s).1 = .error e
  looked : Looked client settings.pollInterval (.list engines (some ns)) s (k + 1)
    (waitForCompletion client settings ns s).2

variable {settings ns} in
theorem concludes_of_first (paced : 0 < settings.pollInterval.nanos) {script : Nat → Check}
    {k : Nat} {outcome : PollOutcome}
    (first : Poll.First settings.pollInterval settings.waitTimeout script k outcome)
    {answers : Nat → Except ClusterError (List Json)}
    (told : Poll.errors script (k + 1) = readErrors answers (k + 1))
    {failure note : Option ScenarioError}
    (judged : judge settings.experiment ns failure (answers k) = (script k, note)) :
    let result := concluded ns settings.waitTimeout (outcome, note)
    Concludes settings ns answers k result ∧
      ∀ reason, outcome = .aborted reason → ∃ e, note = some e ∧ result = .error e := by
  rcases undecided_or_settles settings.experiment (answers k) ⟨k * settings.pollInterval.nanos⟩
    (k + 1) with undecided | ⟨result, settles⟩
  · have unsettled : (judge settings.experiment ns failure (answers k)).1.IsOpen :=
      undecided.judge_open
    rw [judged] at unsettled
    rw [(first.decides.late_of_open unsettled).2, told]
    exact ⟨.ranOut undecided (first.last_of_open paced unsettled), fun _ => nofun⟩
  · cases result with
    | ok outcome =>
      obtain ⟨holds, rfl⟩ := settles.judge_holds
      rw [judged] at holds
      rw [first.decides.eq_of_holds holds, Poll.ending_instant]
      exact ⟨.settled settles, fun _ => nofun⟩
    | error e =>
      obtain ⟨fatal, rfl⟩ := Prod.mk.inj (judged.symm.trans settles.judge_fatal)
      rw [first.decides.eq_of_fatal fatal]
      exact ⟨.settled settles, fun _ _ => ⟨e, rfl, rfl⟩⟩

theorem waitForCompletion_course (paced : 0 < settings.pollInterval.nanos) :
    ∃ k, Course client settings ns s k := by
  obtain ⟨k, course⟩ := Scenario.watch_course client settings.waitTimeout
    (judge settings.experiment ns) none s paced
  obtain ⟨concludes, failed⟩ := concludes_of_first paced course.first
    (errors_checkAt client ns (k + 1)) course.judged
  have told := waitForCompletion_eq client settings ns s
  refine ⟨k, course.first, ?_, ?_, ?_⟩
  · rw [told]
    exact concludes
  · rw [told]
    exact failed
  · rw [told]
    exact course.looked

/-- The first listing of engines that settles anything decides the wait for a fault, and the engines
are not listed again behind it. If there is none in time, the wait runs out with the last error of a
listing. Polling that is given up for a reason has left the failure as its note. -/
theorem waitForCompletion_decided_by_first (paced : 0 < settings.pollInterval.nanos) :
    let call : Call := .list engines (some ns)
    let answers : Nat → Except ClusterError (List Json) :=
      client.answerAfter call s.state.cluster
    let interval := settings.pollInterval
    let limit := settings.waitTimeout.nanos ⌈/⌉ interval.nanos + 1
    let polled := (Scenario.watch client interval settings.waitTimeout call
      (judge settings.experiment ns) none s).1
    let r := waitForCompletion client settings ns s
    (∀ k < limit, (∀ j < k, Undecided settings.experiment (answers j)) →
      ¬Undecided settings.experiment (answers k) →
      Settles settings.experiment ⟨k * interval.nanos⟩ (k + 1) (answers k) r.1 ∧
        Looked client interval call s (k + 1) r.2) ∧
    ((∀ j < limit, Undecided settings.experiment (answers j)) →
      r.1 = .error (.timeout s!"chaos engine {engineName} in {ns}" settings.waitTimeout
        (readErrors answers limit).getLast?) ∧
        Looked client interval call s limit r.2) ∧
    ∀ reason, polled.1 = .aborted reason → ∃ e, polled.2 = some e ∧ r.1 = .error e := by
  intro call answers interval limit polled r
  obtain ⟨k, course⟩ := waitForCompletion_course client settings ns s paced
  have concludes : Concludes settings ns answers k r.1 := course.concludes
  have looked : Looked client interval call s (k + 1) r.2 := course.looked
  refine ⟨fun n inTime before decisive => ?_, fun undecided => ?_, course.failed⟩
  · obtain rfl := course.first.eq_of_first paced inTime
      (fun j hj => judge_isOpen_iff.mpr (before j hj)) (mt judge_isOpen_iff.mp decisive)
    generalize r.1 = result at concludes
    cases concludes with
    | settled settles => exact ⟨settles, looked⟩
    | ranOut undecided => exact absurd undecided decisive
  · generalize r.1 = result at concludes
    cases concludes with
    | settled settles => exact absurd (undecided k course.first.inTime) settles.not_undecided
    | ranOut _ last =>
      have last : k + 1 = limit := last
      rw [← last]
      exact ⟨rfl, looked⟩

end Waits

section SlowEngine

def engineIn (state : String) : Json := .object [("status", .object [
  ("engineStatus", .string state),
  ("experiments", .array [.object [("name", .string "pod-delete")]])])]

def passedResult : Json := .object [
  ("spec", .object [("experiment", .string "pod-delete")]),
  ("status", .object [("experimentStatus", .object [("verdict", .string "Pass")])])]

/-- A cluster whose engine cannot be read at first, is not there, and then takes its time. -/
def slowEngine : Timed (Stage ScriptedCluster) := ⟨{}, ⟨{ ScriptedCluster.initial with
  listScripts := [
    ("ChaosEngine", [.error (.api 500 "busy"), .ok [], .ok [engineIn "initialized"],
      .ok [engineIn "completed"]]),
    ("ChaosResult", [.ok [passedResult]])] }, []⟩⟩

def waitShop (limit : Duration) :
    Except ScenarioError PollOutcome × Timed (Stage ScriptedCluster) :=
  waitForCompletion ScriptedCluster.client { waitTimeout := limit } "shop" slowEngine

def listShop : Call := .list engines (some "shop")

/-- With a deadline of 3 s the fourth listing shows the experiment completed; with one of 2 s it is
not made, and what is left is the error of the first. -/
theorem waitForCompletion_decided_by_first_slowEngine :
    0 < ({} : FaultInjectionSettings).pollInterval.nanos ∧
      (waitShop (.ofSeconds 3)).1 = .ok (.converged (.ofSeconds 3) 4) ∧
      (waitShop (.ofSeconds 3)).2.state.cluster.calls = List.replicate 4 listShop ∧
      (waitShop (.ofSeconds 2)).1 = .error (.timeout "chaos engine engine-test in shop"
        (.ofSeconds 2) (some "API error 500: busy")) ∧
      (waitShop (.ofSeconds 2)).2.state.cluster.calls = List.replicate 3 listShop := by
  have paced : 0 < ({} : FaultInjectionSettings).pollInterval.nanos := by decide
  have busy : EngineStatus.ofObject (engineIn "initialized") =
      .ok ⟨some "initialized", [⟨"pod-delete", none, none⟩]⟩ := rfl
  have done : EngineStatus.ofObject (engineIn "completed") =
      .ok ⟨some "completed", [⟨"pod-delete", none, none⟩]⟩ := rfl
  have undecided : ∀ j < 3, Undecided "pod-delete"
      (ScriptedCluster.client.answerAfter listShop slowEngine.state.cluster j) := by
    intro j early
    rcases j with _ | _ | _ | j
    · exact .unread _
    · exact .empty
    · exact .running busy fun h => absurd h.2 (by decide)
    · omega
  have completed : Settles "pod-delete" (.ofSeconds 3) 4 (.ok [engineIn "completed"])
      (.ok (.converged (.ofSeconds 3) 4)) :=
    .completed done ⟨⟨_, List.mem_singleton_self _, rfl⟩, rfl⟩
  obtain ⟨settles, looked⟩ := (waitForCompletion_decided_by_first ScriptedCluster.client
    { waitTimeout := .ofSeconds 3 } "shop" slowEngine paced).1
    3 (by decide +kernel) undecided completed.not_undecided
  have limit : (Duration.ofSeconds 2).nanos ⌈/⌉
      ({} : FaultInjectionSettings).pollInterval.nanos + 1 = 3 := by decide +kernel
  obtain ⟨-, ranOut, -⟩ := waitForCompletion_decided_by_first ScriptedCluster.client
    { waitTimeout := .ofSeconds 2 } "shop" slowEngine paced
  simp only [limit] at ranOut
  obtain ⟨late, looked'⟩ := ranOut undecided
  have late : (waitShop (.ofSeconds 2)).1 = _ := late
  refine ⟨paced, settles.unique completed, ?_, ?_, ?_⟩
  · rw [waitShop, looked.cluster, ScriptedCluster.calls_repeated]
    rfl
  · rw [late]
    refine congrArg Except.error ?_
    decide +kernel
  · rw [waitShop, looked'.cluster, ScriptedCluster.calls_repeated]
    rfl

end SlowEngine

end Resilience.Fault
