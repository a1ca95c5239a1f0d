import Resilience.Proofs.Cluster.Answer
import Resilience.Scenario.Basic
/-! # The log of a run

What a run asked its cluster and what it was answered, call by call. Runs put together have their
logs one behind the other, and a wait has the logs of its checks.
-/
namespace Resilience

structure LogEntry where
  call : Call
  answer : Except ClusterError call.Reply

namespace Client

variable {σ : Type}

/-- These calls, made one after another, are answered so, and lead from one state to the other. -/
inductive Answers (client : Client σ) : σ → List LogEntry → σ → Prop
  | nil (c : σ) : Answers client c [] c
  | cons (call : Call) {c c' : σ} {log : List LogEntry}
      (rest : Answers client (client.perform call c).2 log c') :
      Answers client c (⟨call, (client.perform call c).1⟩ :: log) c'

variable {client : Client σ} {a b c : σ} {first second : List LogEntry}

theorem Answers.append (h : Answers client a first b) (k : Answers client b second c) :
    Answers client a (first ++ second) c := by
  induction h with
  | nil => exact k
  | cons call _ ih => exact .cons call (ih k)

theorem Answers.cons_inv {call : Call} {answer : Except ClusterError call.Reply}
    (h : client.Answers a (⟨call, answer⟩ :: first) b) :
    (client.perform call a).1 = answer ∧ client.Answers (client.perform call a).2 first b := by
  generalize made : (⟨call, answer⟩ : LogEntry) :: first = entries at h
  cases h with
  | nil => cases made
  | cons call' rest =>
    obtain ⟨entry, rfl⟩ := List.cons.inj made
    obtain ⟨rfl, same⟩ := LogEntry.mk.inj entry
    exact ⟨(eq_of_heq same).symm, rest⟩

end Client

/-- A scripted cluster writes down the calls of a log. -/
theorem ScriptedCluster.calls_of_answers {c c' : ScriptedCluster} {log : List LogEntry}
    (h : client.Answers c log c') : c'.calls = c.calls ++ log.map LogEntry.call := by
  induction h with
  | nil => simp
  | cons call _ ih => rw [ih, calls_perform, List.append_assoc]; rfl

/-- What was called between two stages is a log that fits the result, and nothing was reported. -/
def Logged {σ α : Type} (client : Client σ) (fits : α → List LogEntry → Prop)
    (s : Timed (Stage σ)) (r : α × Timed (Stage σ)) : Prop :=
  ∃ log, client.Answers s.state.cluster log r.2.state.cluster ∧
    r.2.state.reports = s.state.reports ∧ fits r.1 log

def Logs {σ α : Type} (client : Client σ) (m : Scenario σ α) (fits : α → List LogEntry → Prop) :
    Prop :=
  ∀ s, Logged client fits s (m s)

namespace Logs

variable {σ α β : Type} {client : Client σ} {m : Scenario σ α} {f : α → Scenario σ β}
  {fits : α → List LogEntry → Prop} {result : β → List LogEntry → Prop}

theorem pure {a : α} (h : fits a []) : Logs client (Pure.pure a) fits :=
  fun s => ⟨[], .nil s.state.cluster, rfl, h⟩

theorem perform (call : Call) :
    Logs client (Scenario.perform client call) fun answer log => log = [⟨call, answer⟩] :=
  fun _ => ⟨_, .cons call (.nil _), rfl, rfl⟩

theorem bind (hm : Logs client m fits) (hf : ∀ a first, fits a first →
    Logs client (f a) fun b second => result b (first ++ second)) :
    Logs client (m >>= f) result := by
  intro s
  obtain ⟨first, answered, silent, fit⟩ := hm s
  obtain ⟨second, answered', silent', fit'⟩ := hf _ first fit (m s).2
  exact ⟨first ++ second, answered.append answered', silent'.trans silent, fit'⟩

theorem bind_pure {g : α → β} (hm : Logs client m fits)
    (h : ∀ a log, fits a log → result (g a) log) :
    Logs client (m >>= fun a => Pure.pure (g a)) result := by
  refine hm.bind fun a log fit => Logs.pure ?_
  rw [List.append_nil]
  exact h a log fit

theorem perform_bind {call : Call} {f : Except ClusterError call.Reply → Scenario σ β}
    (hf : ∀ answer, Logs client (f answer) fun b log => result b (⟨call, answer⟩ :: log)) :
    Logs client (Scenario.perform client call >>= f) result := by
  refine (perform call).bind fun answer first h => ?_
  subst h
  exact hf answer

theorem imp {other : α → List LogEntry → Prop} (h : Logs client m fits)
    (weaker : ∀ a log, fits a log → other a log) : Logs client m other := by
  intro s
  obtain ⟨log, answered, silent, fit⟩ := h s
  exact ⟨log, answered, silent, weaker _ log fit⟩

section Waiting

variable {check : Scenario σ Check} {unmet met failed : List LogEntry → Prop}

def checked (unmet met failed : List LogEntry → Prop) : Check → List LogEntry → Prop
  | .holds => met
  | .fatal _ => failed
  | .notYet | .transient _ => unmet

def waited (unmet met failed : List LogEntry → Prop) : PollOutcome → List LogEntry → Prop
  | .converged _ _ => met
  | .aborted _ => failed
  | .timedOut _ _ _ => unmet

/-- The logs of checks that did not hold add up until the wait ends. -/
theorem waitFrom (once : ∀ first, unmet first →
      Logs client check fun answer log => checked unmet met failed answer (first ++ log))
    (interval timeout start : Duration) (left attempts : Nat) (lastError : Option String)
    {first : List LogEntry} (h : unmet first) :
    Logs client (Poll.waitFrom interval timeout start check left attempts lastError)
      fun outcome log => waited unmet met failed outcome (first ++ log) := by
  induction left generalizing attempts lastError first with
  | zero =>
    intro s
    have still : unmet (first ++ []) := by rwa [List.append_nil]
    exact ⟨[], .nil _, rfl, still⟩
  | succ left ih =>
    intro s
    obtain ⟨log, answered, silent, fit⟩ := once first h s
    simp only [Poll.waitFrom]
    generalize check s = made at answered silent fit ⊢
    obtain ⟨answer, after⟩ := made
    have again : unmet (first ++ log) → ∀ error,
        Logged client (fun outcome log => waited unmet met failed outcome (first ++ log)) s
          (if timeout ≤ after.clock.now - start
            then (.timedOut (after.clock.now - start) (attempts + 1) error, after)
            else Poll.waitFrom interval timeout start check left (attempts + 1) error
              { after with clock := after.clock.sleep interval }) := by
      intro still error
      split
      · exact ⟨log, answered, silent, still⟩
      · obtain ⟨more, answered', silent', fit'⟩ := ih (attempts + 1) error still
          { after with clock := after.clock.sleep interval }
        rw [List.append_assoc] at fit'
        exact ⟨log ++ more, answered.append answered', silent'.trans silent, fit'⟩
    cases answer with
    | holds => exact ⟨log, answered, silent, fit⟩
    | fatal reason => exact ⟨log, answered, silent, fit⟩
    | notYet => exact again fit _
    | transient message => exact again fit _

variable (unmet met failed) in
theorem waitFor (start : unmet []) (once : ∀ first, unmet first →
      Logs client check fun answer log => checked unmet met failed answer (first ++ log))
    (interval timeout : Duration) :
    Logs client (Poll.waitFor interval timeout check) (waited unmet met failed) :=
  fun s => waitFrom once interval timeout s.clock.now _ 0 none start s

end Waiting
end Logs
end Resilience
