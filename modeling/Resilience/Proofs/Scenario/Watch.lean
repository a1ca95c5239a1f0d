import Resilience.Proofs.Cluster.Answer
import Resilience.Proofs.Poll.Script
import Resilience.Proofs.Scenario.Pace
import Resilience.Scenario.Watch
/-! # How a watch ends

Watching makes the same call again and again. What it comes to is told by the answers to that call,
in the order in which it is made.
-/
namespace Resilience

namespace Client

variable {σ : Type} (client : Client σ) (call : Call) (c : σ)

def repeated : Nat → σ
  | 0 => c
  | k + 1 => (client.perform call (repeated k)).2

/-- What a call is answered after it was made so many times. -/
def answerAfter (k : Nat) : Except ClusterError call.Reply :=
  (client.perform call (client.repeated call c k)).1

theorem repeated_succ (k : Nat) :
    client.repeated call c (k + 1) = client.repeated call (client.perform call c).2 k := by
  induction k with
  | zero => rfl
  | succ k ih => rw [repeated, ih, repeated]

theorem answerAfter_succ (k : Nat) :
    client.answerAfter call c (k + 1) = client.answerAfter call (client.perform call c).2 k := by
  rw [answerAfter, repeated_succ, answerAfter]

end Client

/-- The calls that a scripted cluster writes down are all of the one that is repeated. -/
theorem ScriptedCluster.calls_repeated (call : Call) (c : ScriptedCluster) (n : Nat) :
    (client.repeated call c n).calls = c.calls ++ List.replicate n call := by
  induction n with
  | zero => exact (List.append_nil _).symm
  | succ n ih => rw [Client.repeated, calls_perform, ih, List.append_assoc, List.replicate_succ']

namespace Scenario

open Poll (checkLimit)

variable {σ ν : Type} {call : Call}

variable {client : Client σ} {interval timeout : Duration} {judge : Judge ν call} {note : ν}
  {s : Timed (Stage σ)}

theorem look_eq (clock : Clock) (c : σ) (reports : List ScenarioReport) (note : ν) :
    look client call judge ⟨clock, ⟨⟨c, reports⟩, note⟩⟩ =
      ((judge note (client.perform call c).1).1,
        ⟨clock, ⟨⟨(client.perform call c).2, reports⟩, (judge note (client.perform call c).1).2⟩⟩) :=
  rfl

section Notes

variable (client judge note) (c : σ)

def noteAfter : Nat → ν
  | 0 => note
  | k + 1 => (judge (noteAfter k) (client.answerAfter call c k)).2

def checkAt (k : Nat) : Check :=
  (judge (noteAfter client judge note c k) (client.answerAfter call c k)).1

end Notes

/-- A check judges the next answer to the call, with the note of those before it. No time passes
but between two checks. -/
theorem checked_look (k : Nat) :
    Poll.checked interval (look client call judge) ⟨s.clock, ⟨s.state, note⟩⟩ k =
      (checkAt client judge note s.state.cluster k,
        ⟨⟨s.clock.now + ⟨k * interval.nanos⟩, s.clock.sleeps + k⟩,
          ⟨⟨client.repeated call s.state.cluster (k + 1), s.state.reports⟩,
            noteAfter client judge note s.state.cluster (k + 1)⟩⟩) := by
  have stands : Poll.before interval (look client call judge) ⟨s.clock, ⟨s.state, note⟩⟩ k =
      ⟨⟨s.clock.now + ⟨k * interval.nanos⟩, s.clock.sleeps + k⟩,
        ⟨⟨client.repeated call s.state.cluster k, s.state.reports⟩,
          noteAfter client judge note s.state.cluster k⟩⟩ := by
    induction k with
    | zero =>
      rw [Nat.zero_mul]
      rfl
    | succ k ih =>
      have later : s.clock.now + ⟨k * interval.nanos⟩ + interval =
          s.clock.now + ⟨(k + 1) * interval.nanos⟩ := by
        rw [Nat.succ_mul, Duration.add_assoc]
        rfl
      rw [Poll.before, ih, look_eq, ← later]
      rfl
  rw [Poll.checked, stands, look_eq]
  rfl

structure Course (client : Client σ) (interval timeout : Duration) (call : Call)
    (judge : Judge ν call) (note : ν) (s : Timed (Stage σ)) (k : Nat)
    (r : (PollOutcome × ν) × Timed (Stage σ)) : Prop where
  first : Poll.First interval timeout (checkAt client judge note s.state.cluster) k r.1.1
  noted : r.1.2 = noteAfter client judge note s.state.cluster (k + 1)
  left : r.2 = ⟨⟨s.clock.now + ⟨k * interval.nanos⟩, s.clock.sleeps + k⟩,
    ⟨client.repeated call s.state.cluster (k + 1), s.state.reports⟩⟩

/-- What is left when a call was made so many times and nothing else was: the clock slept once
between two of them. -/
structure Looked (client : Client σ) (interval : Duration) (call : Call) (s : Timed (Stage σ))
    (n : Nat) (t : Timed (Stage σ)) : Prop where
  clock : t.clock = ⟨s.clock.now + ⟨(n - 1) * interval.nanos⟩, s.clock.sleeps + (n - 1)⟩
  cluster : t.state.cluster = client.repeated call s.state.cluster n

namespace Course

variable {k : Nat} {r : (PollOutcome × ν) × Timed (Stage σ)}
  (h : Course client interval timeout call judge note s k r)
include h

/-- The answer that decides a watch leaves its note. -/
theorem judged : judge (noteAfter client judge note s.state.cluster k)
    (client.answerAfter call s.state.cluster k) =
      (checkAt client judge note s.state.cluster k, r.1.2) :=
  Prod.ext rfl h.noted.symm

theorem looked : Looked client interval call s (k + 1) r.2 := by
  rw [h.left]
  exact ⟨rfl, rfl⟩

end Course

variable (client timeout judge note s) in
theorem watch_course (paced : 0 < interval.nanos) : ∃ k, Course client interval timeout call judge
    note s k (watch client interval timeout call judge note s) := by
  have forward := Poll.forward_of_still (look_still client call judge)
  have ended : ∃ k, Poll.Course interval timeout (look client call judge)
      ⟨s.clock, ⟨s.state, note⟩⟩ k _ := Poll.waitFor_course paced forward _
  obtain ⟨k, course⟩ := ended
  obtain ⟨on, decides⟩ := course.decides (checkAt client judge note s.state.cluster)
    (fun _ => .zero) (fun j => by rw [checked_look])
    (fun j => by rw [checked_look, Duration.add_sub_cancel_left, Poll.ending_instant])
  have left := course.left
  rw [checked_look] at left
  refine ⟨k, ⟨course.inTime, fun j hj => (on j hj).1, decides⟩, ?_, ?_⟩
  · exact congrArg (·.state.note) left
  · exact congrArg (fun t => (⟨t.clock, t.state.stage⟩ : Timed (Stage σ))) left

end Scenario
end Resilience
