import Resilience.Proofs.Scenario.Watch
import Resilience.Scenario.Phase
/-! # What decides the wait for an operator

The first answer that is no phase in progress decides the wait. What it comes to is kept in the
trace, beside the reason that polling is given up for, and the two stay in step.
-/
namespace Resilience.Phase

open Poll (checkLimit)
open Scenario (Looked checkAt noteAfter)

/-! ## Answers -/

/-- The phase that an object shows, which is empty without one. -/
inductive Shows (object : Json) : String → Prop
  | absent (h : object.at? ["status", "phase"] = none) : Shows object ""
  | null (h : object.at? ["status", "phase"] = some .null) : Shows object ""
  | text {phase : String} (h : object.at? ["status", "phase"] = some (.string phase)) :
      Shows object phase

inductive InProgress : Except ClusterError Json → String → Prop
  | intro {object : Json} {phase : String} (shows : Shows object phase)
      (going : phase ∉ ["Succeeded", "Failed", "Unknown"]) : InProgress (.ok object) phase

inductive Decides (elapsed : Duration) (attempts : Nat) :
    Except ClusterError Json → PhaseOutcome → Prop
  | unread (e : ClusterError) : Decides elapsed attempts (.error e) (.fetchFailed e.message)
  | unparsed {object value : Json} (h : object.at? ["status", "phase"] = some value)
      (present : value ≠ .null) (other : ∀ text, value ≠ .string text) :
      Decides elapsed attempts (.ok object)
        (.parseFailed s!"status.phase is not a string: {value.compact}")
  | failed {object : Json} {phase : String} (shows : Shows object phase)
      (last : phase ∈ ["Failed", "Unknown"]) : Decides elapsed attempts (.ok object) (.failed phase)
  | succeeded {object : Json} (shows : Shows object "Succeeded") :
      Decides elapsed attempts (.ok object) (.succeeded elapsed attempts)

section Answers

variable {object : Json} {phase phase' : String} {answer : Except ClusterError Json}

theorem Shows.phaseOf_eq (h : Shows object phase) : phaseOf object = .ok phase := by
  cases h with
  | absent h | null h | text h => rw [phaseOf, h]

theorem Shows.unique (h : Shows object phase) (h' : Shows object phase') : phase = phase' :=
  Except.ok.inj (h.phaseOf_eq.symm.trans h'.phaseOf_eq)

theorem Shows.not_other {value : Json} (h : Shows object phase)
    (found : object.at? ["status", "phase"] = some value) (present : value ≠ .null) :
    ¬∀ text, value ≠ .string text := by
  intro other
  cases h with
  | absent h => cases h.symm.trans found
  | null h => exact present (Option.some.inj (found.symm.trans h))
  | text h => exact other _ (Option.some.inj (found.symm.trans h))

section Deciding

variable {elapsed : Duration} {attempts : Nat} {outcome outcome' : PhaseOutcome}

theorem Decides.not_inProgress (h : Decides elapsed attempts answer outcome) :
    ¬∃ phase, InProgress answer phase := by
  rintro ⟨phase, going⟩
  cases going with
  | intro shows going =>
    cases h with
    | unparsed found present other => exact shows.not_other found present other
    | failed shows' last =>
      cases shows.unique shows'
      simp only [List.mem_cons, not_or] at going last
      tauto
    | succeeded shows' =>
      cases shows.unique shows'
      exact going List.mem_cons_self

/-- An answer makes one outcome of the wait. -/
theorem Decides.unique (h : Decides elapsed attempts answer outcome)
    (h' : Decides elapsed attempts answer outcome') : outcome = outcome' := by
  cases h with
  | unread =>
    cases h'
    rfl
  | unparsed found present other =>
    cases h' with
    | unparsed found' =>
      cases found.symm.trans found'
      rfl
    | failed shows | succeeded shows => exact absurd other (shows.not_other found present)
  | failed shows last =>
    cases h' with
    | unparsed found present other => exact absurd other (shows.not_other found present)
    | failed shows' => rw [shows.unique shows']
    | succeeded shows' =>
      cases shows.unique shows'
      simp at last
  | succeeded shows =>
    cases h' with
    | unparsed found present other => exact absurd other (shows.not_other found present)
    | failed shows' last =>
      cases shows.unique shows'
      simp at last
    | succeeded => rfl

end Deciding

inductive Observed (answer : Except ClusterError Json) : Observation → Prop
  | inProgress {phase : String} (h : InProgress answer phase) : Observed answer (.inProgress phase)
  | succeeded
      (h : ∀ elapsed attempts, Decides elapsed attempts answer (.succeeded elapsed attempts)) :
      Observed answer .succeeded
  | decided {outcome : PhaseOutcome}
      (h : ∀ elapsed attempts, Decides elapsed attempts answer outcome) (reason : String) :
      Observed answer (.decided outcome reason)

theorem observed_of_shows (shows : Shows object phase) :
    Observed (.ok object) (observe (.ok object)) := by
  rw [observe, shows.phaseOf_eq]
  by_cases succeeded : phase = "Succeeded"
  · subst succeeded
    exact .succeeded fun _ _ => .succeeded shows
  · by_cases last : phase = "Failed" ∨ phase = "Unknown"
    · simp only [PhaseClass.of, if_neg succeeded, if_pos last]
      exact .decided (fun _ _ => .failed shows (by simpa using last)) phase
    · simp only [PhaseClass.of, if_neg succeeded, if_neg last]
      exact .inProgress ⟨shows, by simpa using ⟨succeeded, not_or.mp last⟩⟩

theorem observe_observed (answer : Except ClusterError Json) :
    Observed answer (observe answer) := by
  cases answer with
  | error e => exact .decided (fun _ _ => .unread e) e.message
  | ok object =>
    cases found : object.at? ["status", "phase"] with
    | none => exact observed_of_shows (.absent found)
    | some value =>
      match value with
      | .null => exact observed_of_shows (.null found)
      | .string _ => exact observed_of_shows (.text found)
      | .bool _ | .number _ | .array _ | .object _ =>
        rw [observe, phaseOf, found]
        exact .decided (fun _ _ => .unparsed found (by simp) (by simp)) _

theorem judge_isOpen_iff {ns name : String} {trace : Trace} :
    (judge ns name trace answer).1.IsOpen ↔ ∃ phase, InProgress answer phase := by
  have observed := observe_observed answer
  unfold judge
  generalize observe answer = observation at observed
  cases observed with
  | inProgress h => exact iff_of_true trivial ⟨_, h⟩
  | succeeded h => exact iff_of_false id (h .zero 0).not_inProgress
  | decided h => exact iff_of_false id (h .zero 0).not_inProgress

inductive Ends (elapsed : Duration) (attempts : Nat) (answer : Except ClusterError Json) :
    PollOutcome × Trace → Prop
  | ranOut {phase : String} (h : InProgress answer phase) (lastError : Option String)
      (trace : Trace) : Ends elapsed attempts answer
        (.timedOut elapsed attempts lastError, { trace with lastPhase := some phase })
  | done (h : Decides elapsed attempts answer (.succeeded elapsed attempts)) (trace : Trace) :
      Ends elapsed attempts answer (.converged elapsed attempts, trace)
  | givenUp {outcome : PhaseOutcome} (h : Decides elapsed attempts answer outcome) (reason : String)
      (trace : Trace) : Ends elapsed attempts answer
        (.aborted reason, { trace with decided := some outcome })

theorem ends_of_first {interval timeout : Duration} {script : Nat → Check} {k : Nat}
    {polled : PollOutcome} (first : Poll.First interval timeout script k polled)
    {ns name : String} {trace note : Trace}
    (judged : judge ns name trace answer = (script k, note)) :
    Ends ⟨k * interval.nanos⟩ (k + 1) answer (polled, note) := by
  have observed := observe_observed answer
  unfold judge at judged
  generalize observe answer = observation at observed judged
  rw [← Poll.ending_instant]
  cases observed with
  | inProgress h =>
    obtain ⟨check, rfl⟩ := Prod.mk.inj judged
    have unsettled : (script k).IsOpen := check ▸ trivial
    rw [(first.decides.late_of_open unsettled).2]
    exact .ranOut h _ trace
  | succeeded h =>
    obtain ⟨check, rfl⟩ := Prod.mk.inj judged
    rw [first.decides.eq_of_holds check.symm]
    exact .done (h _ _) trace
  | decided h reason =>
    obtain ⟨check, rfl⟩ := Prod.mk.inj judged
    rw [first.decides.eq_of_fatal check.symm]
    exact .givenUp (h _ _) reason trace

end Answers

/-! ## The wait -/

variable {σ : Type} (client : Client σ) (settings : OperatorSettings) (ns name : String)
  (s : Timed (Stage σ))

/-- The first answer that is no phase in progress decides the wait for an operator, and the object
is not read again behind it. If there is none in time, the wait runs out with the phase of the last
answer. Polling that is given up for a reason has left the outcome in the trace. -/
theorem wait_decided_by_first (paced : 0 < settings.pollInterval.nanos) :
    let call : Call := .get serviceVersions (some ns) name
    let answers : Nat → Except ClusterError Json := client.answerAfter call s.state.cluster
    let interval := settings.pollInterval
    let limit := settings.timeout.nanos ⌈/⌉ interval.nanos + 1
    let polled := (Scenario.watch client interval settings.timeout call (judge ns name) {} s).1
    let r := wait client settings ns name s
    (∀ k < limit, (∀ j < k, ∃ phase, InProgress (answers j) phase) →
      (¬∃ phase, InProgress (answers k) phase) →
      Decides ⟨k * interval.nanos⟩ (k + 1) (answers k) r.1 ∧
        Looked client interval call s (k + 1) r.2) ∧
    ((∀ j < limit, ∃ phase, InProgress (answers j) phase) →
      ∃ phase, InProgress (answers (limit - 1)) phase ∧
        r.1 = .timedOut ⟨(limit - 1) * interval.nanos⟩ (some phase) ∧
        Looked client interval call s limit r.2) ∧
    ∀ reason, polled.1 = .aborted reason → polled.2.decided = some r.1 := by
  intro call answers interval limit polled r
  obtain ⟨k, course⟩ :=
    Scenario.watch_course client settings.timeout (judge ns name) {} s paced
  have first := course.first
  have looked : Looked client interval call s (k + 1) r.2 :=
    ⟨course.looked.clock, course.looked.cluster⟩
  have opens : ∀ j, (checkAt client (judge ns name) {} s.state.cluster j).IsOpen ↔
      ∃ phase, InProgress (answers j) phase := fun j => judge_isOpen_iff
  have ends : Ends ⟨k * interval.nanos⟩ (k + 1) (answers k) polled :=
    ends_of_first first course.judged
  have outcome : r.1 = outcomeOf polled.1 polled.2 := rfl
  refine ⟨fun n inTime going settled => ?_, fun going => ?_, fun reason aborted => ?_⟩
  · obtain rfl := first.eq_of_first paced inTime (fun j hj => (opens j).mpr (going j hj))
      (mt (opens n).mp settled)
    refine ⟨?_, looked⟩
    rw [outcome]
    generalize polled = ended at ends
    cases ends with
    | ranOut h => exact absurd ⟨_, h⟩ settled
    | done h => exact h
    | givenUp h => exact h
  · have unsettled := going k first.inTime
    have last : k + 1 = limit := first.last_of_open paced ((opens k).mpr unsettled)
    rw [outcome, ← last]
    generalize polled = ended at ends
    cases ends with
    | ranOut h => exact ⟨_, h, rfl, looked⟩
    | done h => exact absurd unsettled h.not_inProgress
    | givenUp h => exact absurd unsettled h.not_inProgress
  · rw [outcome]
    generalize polled = ended at ends aborted
    cases ends with
    | ranOut | done => cases aborted
    | givenUp => rfl

section Installing

def showing (phase : String) : Json := .object [("status", .object [("phase", .string phase)])]

def installing : Timed (Stage ScriptedCluster) := ⟨{}, ⟨{ ScriptedCluster.initial with
  getScripts := [(("ClusterServiceVersion", "cart"),
    [.ok (.object []), .ok (showing "Installing"), .ok (showing "Succeeded")])] }, []⟩⟩

def readCart : Call := .get serviceVersions (some "shop") "cart"

def waitCart (timeout : Duration) : PhaseOutcome × Timed (Stage ScriptedCluster) :=
  wait ScriptedCluster.client { timeout := timeout, pollInterval := .ofSeconds 5 } "shop" "cart"
    installing

/-- With a deadline of 9 s the third reading shows it installed; with one of 5 s it is not made. -/
theorem wait_decided_by_first_installing :
    0 < (Duration.ofSeconds 5).nanos ∧
      (waitCart (.ofSeconds 9)).1 = .succeeded (.ofSeconds 10) 3 ∧
      (waitCart (.ofSeconds 9)).2.state.cluster.calls = List.replicate 3 readCart ∧
      (waitCart (.ofSeconds 5)).1 = .timedOut (.ofSeconds 5) (some "Installing") ∧
      (waitCart (.ofSeconds 5)).2.state.cluster.calls = List.replicate 2 readCart := by
  have paced : 0 < (Duration.ofSeconds 5).nanos := by decide
  have going : ∀ j < 2, ∃ phase, InProgress
      (ScriptedCluster.client.answerAfter readCart installing.state.cluster j) phase := by
    intro j early
    match j with
    | 0 => exact ⟨"", .intro (.absent rfl) (by decide)⟩
    | 1 => exact ⟨"Installing", .intro (.text rfl) (by decide)⟩
  have limit : (Duration.ofSeconds 5).nanos ⌈/⌉ (Duration.ofSeconds 5).nanos + 1 = 2 := by
    decide +kernel
  have last : Decides (.ofSeconds 10) 3 (.ok (showing "Succeeded"))
      (.succeeded (.ofSeconds 10) 3) := .succeeded (.text rfl)
  obtain ⟨decided, looked⟩ := (wait_decided_by_first ScriptedCluster.client
    { timeout := .ofSeconds 9, pollInterval := .ofSeconds 5 } "shop" "cart" installing paced).1
    2 (by decide +kernel) going last.not_inProgress
  obtain ⟨-, ranOut, -⟩ := wait_decided_by_first ScriptedCluster.client
    { timeout := .ofSeconds 5, pollInterval := .ofSeconds 5 } "shop" "cart" installing paced
  simp only [limit] at ranOut
  obtain ⟨phase, ⟨shows, -⟩, late, looked'⟩ := ranOut going
  refine ⟨paced, decided.unique last, ?_, ?_, ?_⟩
  · exact (congrArg (·.calls) looked.cluster).trans (ScriptedCluster.calls_repeated ..)
  · cases shows.unique (.text rfl)
    exact late
  · exact (congrArg (·.calls) looked'.cluster).trans (ScriptedCluster.calls_repeated ..)

end Installing

end Resilience.Phase
