import Resilience.Clock
import Resilience.Duration.Printer
/-! # Waiting for a condition

A condition is checked again and again at a fixed interval, until it holds, its check gives up or
the deadline has passed. The deadline is looked at after every check, so that each wait checks at
least once and, with a deadline of some length, twice.
-/
namespace Resilience

inductive Check where
  | holds
  | notYet
  /-- The condition could not be read this time. -/
  | transient (message : String)
  /-- The condition can never hold. -/
  | fatal (reason : String)
deriving DecidableEq, Repr

namespace Check

def ofBool (b : Bool) : Check := if b then .holds else .notYet

def errorText? : Check → Option String
  | .transient message => some s!"transient: {message}"
  | .fatal reason => some s!"fatal: {reason}"
  | _ => none

end Check

inductive PollOutcome where
  | converged (elapsed : Duration) (attempts : Nat)
  | timedOut (elapsed : Duration) (attempts : Nat) (lastError : Option String)
  | aborted (reason : String)
deriving DecidableEq, Repr

namespace PollOutcome

def isConverged : PollOutcome → Bool
  | .converged _ _ => true
  | _ => false

def toJson : PollOutcome → Json
  | .converged elapsed attempts =>
    .object [("outcome", .string "converged"), ("elapsed", elapsed.secondsJson),
      ("attempts", .nat attempts)]
  | .timedOut elapsed attempts lastError =>
    .object [("outcome", .string "timed_out"), ("elapsed", elapsed.secondsJson),
      ("attempts", .nat attempts), ("last_error", Json.ofOption .string lastError)]
  | .aborted reason => .object [("outcome", .string "aborted"), ("reason", .string reason)]

end PollOutcome

namespace Poll

variable {σ : Type}

/-- How many checks a wait can make at most. A wait without an interval has no limit of its own
and is given a large one. -/
def attemptLimit (interval timeout : Duration) : Nat :=
  if interval.nanos = 0 then twoTo 32 else timeout.nanos / interval.nanos + 2

/-- The wait that began at `start`, after `attempts` checks, with so many checks left. -/
def waitFrom (interval timeout start : Duration) (check : StateM (Timed σ) Check) :
    Nat → Nat → Option String → StateM (Timed σ) PollOutcome
  | 0, attempts, lastError => fun s =>
    (.timedOut (s.clock.now - start) attempts lastError, s)
  | left + 1, attempts, lastError => fun s =>
    let (answer, s) := check s
    let elapsed := s.clock.now - start
    let next (lastError : Option String) : PollOutcome × Timed σ :=
      if timeout ≤ elapsed then (.timedOut elapsed (attempts + 1) lastError, s)
      else waitFrom interval timeout start check left (attempts + 1) lastError
        { s with clock := s.clock.sleep interval }
    match answer with
    | .holds => (.converged elapsed (attempts + 1), s)
    | .fatal reason => (.aborted reason, s)
    | .notYet => next lastError
    | .transient message => next (some message)

def waitFor (interval timeout : Duration) (check : StateM (Timed σ) Check) :
    StateM (Timed σ) PollOutcome := fun s =>
  waitFrom interval timeout s.clock.now check (attemptLimit interval timeout) 0 none s

def waitUntil (interval timeout : Duration) (check : StateM (Timed σ) Bool) :
    StateM (Timed σ) Bool := fun s =>
  let (outcome, s) := waitFor interval timeout (fun s => let (b, s) := check s; (.ofBool b, s)) s
  (outcome.isConverged, s)

end Poll
end Resilience
