import Resilience.Json.Printer
import Resilience.Scenario.Watch
import Resilience.Settings.Basic
/-! # Waiting for an operator

An operator is installed when the phase of its service version is `Succeeded`. Unlike other waits
this one ends as soon as the object cannot be read.
-/
namespace Resilience

inductive PhaseClass where
  | succeeded
  | failed
  | inProgress
deriving DecidableEq, Repr

def PhaseClass.of (phase : String) : PhaseClass :=
  if phase = "Succeeded" then .succeeded
  else if phase = "Failed" ∨ phase = "Unknown" then .failed
  else .inProgress

inductive PhaseOutcome where
  | succeeded (elapsed : Duration) (attempts : Nat)
  | failed (phase : String)
  | fetchFailed (error : String)
  | parseFailed (error : String)
  | timedOut (elapsed : Duration) (lastPhase : Option String)
deriving DecidableEq, Repr

namespace PhaseOutcome

def hasSucceeded : PhaseOutcome → Bool
  | .succeeded _ _ => true
  | _ => false

/-- The verdict on the wait: an error if the phase was not observed. -/
def verdict : PhaseOutcome → Verdict
  | .succeeded _ _ => .pass
  | .failed _ | .timedOut _ _ => .fail
  | .fetchFailed _ | .parseFailed _ => .error

def code? : PhaseOutcome → Option ErrorCode
  | .succeeded _ _ => none
  | .failed _ => some .operatorPhaseFailed
  | .fetchFailed _ => some .operatorFetchFailed
  | .parseFailed _ => some .operatorPhaseParse
  | .timedOut _ _ => some .operatorPhaseTimeout

def reason (o : PhaseOutcome) (subject : String) : String :=
  match o with
  | .succeeded _ _ => s!"{subject} is ready"
  | .failed phase => s!"{subject} failed to be ready, status={phase}"
  | .fetchFailed error => s!"could not get {subject}: {error}"
  | .parseFailed error => s!"could not read phase of {subject}: {error}"
  | .timedOut _ _ => s!"timeout waiting for {subject} to be ready"

def toJson : PhaseOutcome → Json
  | .succeeded elapsed attempts =>
    .object [("outcome", .string "succeeded"), ("elapsed", elapsed.secondsJson),
      ("attempts", .nat attempts)]
  | .failed phase => .object [("outcome", .string "failed"), ("phase", .string phase)]
  | .fetchFailed error => .object [("outcome", .string "fetch_failed"), ("error", .string error)]
  | .parseFailed error => .object [("outcome", .string "parse_failed"), ("error", .string error)]
  | .timedOut elapsed lastPhase =>
    .object [("outcome", .string "timed_out"), ("elapsed", elapsed.secondsJson),
      ("last_phase", Json.ofOption .string lastPhase)]

end PhaseOutcome

namespace Phase

variable {σ : Type}

def serviceVersions : Mapping :=
  ⟨"operators.coreos.com", "v1alpha1", "ClusterServiceVersion", "clusterserviceversions", true⟩

/-- The phase of an object; without one it is empty. -/
def phaseOf (object : Json) : Except String String :=
  match object.at? ["status", "phase"] with
  | none | some .null => .ok ""
  | some (.string phase) => .ok phase
  | some other => .error s!"status.phase is not a string: {other.compact}"

inductive Observation where
  | inProgress (phase : String)
  | succeeded
  | decided (outcome : PhaseOutcome) (reason : String)

def observe : Except ClusterError Json → Observation
  | .error e => .decided (.fetchFailed e.message) e.message
  | .ok object =>
    match phaseOf object with
    | .error e => .decided (.parseFailed e) e
    | .ok phase =>
      match PhaseClass.of phase with
      | .succeeded => .succeeded
      | .failed => .decided (.failed phase) phase
      | .inProgress => .inProgress phase

structure Trace where
  lastPhase : Option String := none
  decided : Option PhaseOutcome := none

def judge (ns name : String) : Scenario.Judge Trace (.get serviceVersions (some ns) name) :=
  fun trace answer =>
    match observe answer with
    | .succeeded => (.holds, trace)
    | .inProgress phase => (.notYet, { trace with lastPhase := some phase })
    | .decided outcome reason => (.fatal reason, { trace with decided := some outcome })

def outcomeOf (polled : PollOutcome) (trace : Trace) : PhaseOutcome :=
  match polled with
  | .converged elapsed attempts => .succeeded elapsed attempts
  | .timedOut elapsed _ _ => .timedOut elapsed trace.lastPhase
  | .aborted reason => trace.decided.getD (.fetchFailed reason)

def subject (ns name : String) : String := s!"csv {ns}/{name}"

def wait (client : Client σ) (settings : OperatorSettings) (ns name : String) :
    Scenario σ PhaseOutcome := do
  let (polled, trace) ← Scenario.watch client settings.pollInterval settings.timeout
    (.get serviceVersions (some ns) name) (judge ns name) {}
  let outcome := outcomeOf polled trace
  Scenario.report
    ⟨"operator-phase", subject ns name, outcome.verdict, outcome.reason (subject ns name)⟩
  pure outcome

end Phase
end Resilience
