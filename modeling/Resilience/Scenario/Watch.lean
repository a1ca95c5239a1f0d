import Resilience.Scenario.Basic
/-! # Watching an object

A wait whose condition is read from the cluster by one call, made again and again. Every reading
is judged, and may leave a note for the time after the wait.
-/
namespace Resilience.Scenario

variable {σ ν : Type}

structure Noted (ν σ : Type) where
  stage : Stage σ
  note : ν

/-- What answers to a call mean: the check, and the note after a reading. -/
abbrev Judge (ν : Type) (call : Call) := ν → Except ClusterError call.Reply → Check × ν

def look (client : Client σ) (call : Call) (judge : Judge ν call) :
    StateM (Timed (Noted ν σ)) Check := fun s =>
  let (answer, after) := perform client call ⟨s.clock, s.state.stage⟩
  let (check, note) := judge s.state.note answer
  (check, ⟨after.clock, ⟨after.state, note⟩⟩)

def watch (client : Client σ) (interval timeout : Duration) (call : Call)
    (judge : Judge ν call) (note : ν) : Scenario σ (PollOutcome × ν) := fun s =>
  let (outcome, after) := Poll.waitFor interval timeout (look client call judge)
    ⟨s.clock, ⟨s.state, note⟩⟩
  ((outcome, after.state.note), ⟨after.clock, after.state.stage⟩)

end Resilience.Scenario
