import Resilience.Proofs.Poll
/-! # The loop of a wait

A wait as a loop that nothing stops but its checks and its deadline. With an interval it always
ends, after a number of checks that the deadline bounds, however long they take; without one it may
go on forever.
-/
namespace Resilience

def Check.remembered (lastError : Option String) : Check → Option String
  | .transient message => some message
  | _ => lastError

def Check.message? : Check → Option String
  | .transient message => some message
  | _ => none

namespace Poll

variable {σ : Type}

section Loop

variable (interval timeout start : Duration) (check : StateM (Timed σ) Check)

/-- The loop that began at `start`, behind `attempts` checks: it makes so many more and then ends
with this result. -/
inductive Loop : Nat → Option String → Timed σ → Nat → PollOutcome × Timed σ → Prop
  | holds {attempts : Nat} {lastError : Option String} {s : Timed σ}
      (settled : (check s).1 = .holds) :
      Loop attempts lastError s 1
        (.converged ((check s).2.clock.now - start) (attempts + 1), (check s).2)
  | givesUp {attempts : Nat} {lastError : Option String} {s : Timed σ} {reason : String}
      (settled : (check s).1 = .fatal reason) :
      Loop attempts lastError s 1 (.aborted reason, (check s).2)
  | late {attempts : Nat} {lastError : Option String} {s : Timed σ}
      (unsettled : (check s).1.IsOpen) (passed : timeout ≤ (check s).2.clock.now - start) :
      Loop attempts lastError s 1
        (.timedOut ((check s).2.clock.now - start) (attempts + 1)
          ((check s).1.remembered lastError), (check s).2)
  | again {attempts : Nat} {lastError : Option String} {s : Timed σ} {checks : Nat}
      {r : PollOutcome × Timed σ} (unsettled : (check s).1.IsOpen)
      (ahead : ¬timeout ≤ (check s).2.clock.now - start)
      (rest : Loop (attempts + 1) ((check s).1.remembered lastError)
        { (check s).2 with clock := (check s).2.clock.sleep interval } checks r) :
      Loop attempts lastError s (checks + 1) r

end Loop

variable {interval timeout start : Duration} {check : StateM (Timed σ) Check} {attempts : Nat}
  {lastError : Option String} {s : Timed σ} {checks checks' : Nat} {r r' : PollOutcome × Timed σ}

/-- A loop comes to one result, after one number of checks. -/
theorem Loop.unique (h : Loop interval timeout start check attempts lastError s checks r)
    (h' : Loop interval timeout start check attempts lastError s checks' r') :
    checks = checks' ∧ r = r' := by
  induction h generalizing checks' with
  | holds settled =>
    cases h' with
    | holds => exact ⟨rfl, rfl⟩
    | givesUp settled' => cases settled.symm.trans settled'
    | late unsettled | again unsettled =>
      rw [settled] at unsettled
      cases unsettled
  | givesUp settled =>
    cases h' with
    | holds settled' => cases settled.symm.trans settled'
    | givesUp settled' =>
      cases settled.symm.trans settled'
      exact ⟨rfl, rfl⟩
    | late unsettled | again unsettled =>
      rw [settled] at unsettled
      cases unsettled
  | late unsettled passed =>
    cases h' with
    | holds settled | givesUp settled =>
      rw [settled] at unsettled
      cases unsettled
    | late => exact ⟨rfl, rfl⟩
    | again _ ahead => exact absurd passed ahead
  | again unsettled ahead _ ih =>
    cases h' with
    | holds settled | givesUp settled =>
      rw [settled] at unsettled
      cases unsettled
    | late _ passed => exact absurd passed ahead
    | again _ _ rest =>
      obtain ⟨rfl, rfl⟩ := ih rest
      exact ⟨rfl, rfl⟩

/-- Without an interval no time passes, so that a condition that stays open is checked forever. -/
theorem Loop.endless (still : ∀ t, (check t).2.clock = t.clock)
    (unsettled : ∀ t, (check t).1.IsOpen) (idle : interval.nanos = 0)
    (ahead : s.clock.now - start < timeout) :
    ¬Loop interval timeout start check attempts lastError s checks r := by
  intro h
  induction h with
  | @holds _ _ s settled | @givesUp _ _ s _ settled =>
    have := unsettled s
    rw [settled] at this
    exact this
  | @late _ _ s _ passed =>
    rw [still s] at passed
    exact Nat.not_lt.mpr passed ahead
  | @again _ _ s _ _ _ _ _ ih =>
    apply ih
    rw [Duration.lt_def, Duration.nanos_sub] at ahead ⊢
    rw [Clock.now_sleep, still s, Duration.nanos_add, idle]
    exact ahead

section Steps

variable {left : Nat}

theorem waitFrom_holds (settled : (check s).1 = .holds) :
    waitFrom interval timeout start check (left + 1) attempts lastError s =
      (.converged ((check s).2.clock.now - start) (attempts + 1), (check s).2) := by
  simp only [waitFrom]
  generalize check s = made at settled ⊢
  obtain ⟨answer, after⟩ := made
  obtain rfl : answer = .holds := settled
  rfl

theorem waitFrom_fatal {reason : String} (settled : (check s).1 = .fatal reason) :
    waitFrom interval timeout start check (left + 1) attempts lastError s =
      (.aborted reason, (check s).2) := by
  simp only [waitFrom]
  generalize check s = made at settled ⊢
  obtain ⟨answer, after⟩ := made
  obtain rfl : answer = .fatal reason := settled
  rfl

theorem waitFrom_open (unsettled : (check s).1.IsOpen) :
    waitFrom interval timeout start check (left + 1) attempts lastError s =
      if timeout ≤ (check s).2.clock.now - start then
        (.timedOut ((check s).2.clock.now - start) (attempts + 1) ((check s).1.remembered lastError),
          (check s).2)
      else waitFrom interval timeout start check left (attempts + 1)
        ((check s).1.remembered lastError)
        { (check s).2 with clock := (check s).2.clock.sleep interval } := by
  simp only [waitFrom]
  generalize check s = made at unsettled ⊢
  obtain ⟨answer, after⟩ := made
  cases answer with
  | holds | fatal _ => cases unsettled
  | notYet | transient _ => rfl

end Steps

variable (attempts lastError s) in
/-- What is left of a wait is the rest of its loop: it never makes all the checks that it is left. -/
theorem waitFrom_loop (paced : 0 < interval.nanos)
    (forward : ∀ t, t.clock.now ≤ (check t).2.clock.now) {left : Nat}
    (inTime : attempts < checkLimit interval timeout)
    (enough : checkLimit interval timeout ≤ attempts + left)
    (slept : start.nanos + attempts * interval.nanos ≤ s.clock.now.nanos) :
    ∃ checks, attempts + checks ≤ checkLimit interval timeout ∧
      Loop interval timeout start check attempts lastError s checks
        (waitFrom interval timeout start check left attempts lastError s) := by
  -- on the checks that the fuel is left for; the deadline comes before it is used up
  induction left generalizing attempts lastError s with
  | zero => omega
  | succ left ih =>
    have now : start.nanos + attempts * interval.nanos ≤ (check s).2.clock.now.nanos :=
      slept.trans (forward s)
    by_cases unsettled : (check s).1.IsOpen
    · rw [waitFrom_open unsettled]
      by_cases passed : timeout ≤ (check s).2.clock.now - start
      · rw [if_pos passed]
        exact ⟨1, inTime, .late unsettled passed⟩
      · rw [if_neg passed]
        have more : attempts + 1 < checkLimit interval timeout := by
          rw [lt_checkLimit_iff paced]
          rw [Duration.le_def, Duration.nanos_sub] at passed
          omega
        have behind : start.nanos + (attempts + 1) * interval.nanos ≤
            ((check s).2.clock.sleep interval).now.nanos := by
          rw [Clock.now_sleep, Duration.nanos_add, Nat.succ_mul]
          omega
        obtain ⟨checks, below, rest⟩ := ih (attempts + 1) ((check s).1.remembered lastError)
          { (check s).2 with clock := (check s).2.clock.sleep interval } more (by omega) behind
        exact ⟨checks + 1, by omega, .again unsettled passed rest⟩
    · cases answer : (check s).1 with
      | holds =>
        rw [waitFrom_holds answer]
        exact ⟨1, inTime, .holds answer⟩
      | fatal reason =>
        rw [waitFrom_fatal answer]
        exact ⟨1, inTime, .givesUp answer⟩
      | notYet | transient _ =>
        rw [answer] at unsettled
        exact absurd trivial unsettled

/-! ## What a loop comes to -/

section Course

variable (interval timeout start check attempts lastError s)

def answers (n : Nat) : List Check := (List.range n).map fun j => (checked interval check s j).1

def GoesOn (j : Nat) : Prop :=
  (checked interval check s j).1.IsOpen ∧ (checked interval check s j).2.clock.now - start < timeout

inductive Stops (k : Nat) : PollOutcome → Prop
  | holds (settled : (checked interval check s k).1 = .holds) :
      Stops k (.converged ((checked interval check s k).2.clock.now - start) (attempts + k + 1))
  | givesUp {reason : String} (settled : (checked interval check s k).1 = .fatal reason) :
      Stops k (.aborted reason)
  | late (unsettled : (checked interval check s k).1.IsOpen)
      (passed : timeout ≤ (checked interval check s k).2.clock.now - start) :
      Stops k (.timedOut ((checked interval check s k).2.clock.now - start) (attempts + k + 1)
        ((answers interval check s (k + 1)).foldl Check.remembered lastError))

end Course

theorem answers_succ (n : Nat) : answers interval check s (n + 1) =
    (check s).1 :: answers interval check (before interval check s 1) n := by
  rw [answers, List.range_succ_eq_map, List.map_cons, List.map_map, answers]
  refine congrArg (_ :: ·) (List.map_congr_left fun j _ => ?_)
  rw [Function.comp_apply, checked_succ]

theorem foldl_remembered (cs : List Check) (lastError : Option String) :
    cs.foldl Check.remembered lastError = (cs.filterMap Check.message?).getLast?.or lastError := by
  induction cs generalizing lastError with
  | nil => rfl
  | cons c cs ih =>
    rw [List.foldl_cons, ih]
    cases c with
    | transient message =>
      have told : (Check.transient message :: cs).filterMap Check.message? =
          message :: cs.filterMap Check.message? := rfl
      rw [told, Check.remembered, List.getLast?_cons]
      cases (cs.filterMap Check.message?).getLast? <;> rfl
    | holds | notYet | fatal _ => rfl

theorem Stops.succ {k : Nat} {outcome : PollOutcome}
    (h : Stops interval timeout start check (attempts + 1) ((check s).1.remembered lastError)
      (before interval check s 1) k outcome) :
    Stops interval timeout start check attempts lastError s (k + 1) outcome := by
  have shift : checked interval check s (k + 1) =
      checked interval check (before interval check s 1) k := checked_succ k
  have counted : attempts + 1 + k + 1 = attempts + (k + 1) + 1 := by omega
  cases h with
  | holds settled =>
    rw [counted, ← shift]
    exact .holds (shift ▸ settled)
  | givesUp settled => exact .givesUp (shift ▸ settled)
  | late unsettled passed =>
    rw [counted, ← shift, ← List.foldl_cons, ← answers_succ]
    exact .late (shift ▸ unsettled) (shift ▸ passed)

/-- A loop goes on behind every check but its last one. -/
theorem Loop.course (h : Loop interval timeout start check attempts lastError s checks r) :
    ∃ k, checks = k + 1 ∧ (∀ j < k, GoesOn interval timeout start check s j) ∧
      Stops interval timeout start check attempts lastError s k r.1 ∧
      r.2 = (checked interval check s k).2 := by
  induction h with
  | holds settled => exact ⟨0, rfl, by simp, .holds settled, rfl⟩
  | givesUp settled => exact ⟨0, rfl, by simp, .givesUp settled, rfl⟩
  | late unsettled passed => exact ⟨0, rfl, by simp, .late unsettled passed, rfl⟩
  | @again attempts lastError s _ r unsettled ahead _ ih =>
    obtain ⟨k, rfl, on, stops, left⟩ := ih
    refine ⟨k + 1, rfl, fun j hj => ?_, stops.succ,
      left.trans (congrArg Prod.snd (checked_succ k)).symm⟩
    cases j with
    | zero => exact ⟨unsettled, Nat.not_le.mp ahead⟩
    | succ j =>
      rw [GoesOn, checked_succ]
      exact on j (by omega)

/-- How a wait goes that ends behind its check number `k`, counted from zero. -/
structure Course (interval timeout : Duration) (check : StateM (Timed σ) Check) (s : Timed σ)
    (k : Nat) (r : PollOutcome × Timed σ) : Prop where
  inTime : k < checkLimit interval timeout
  loop : Loop interval timeout s.clock.now check 0 none s (k + 1) r
  on : ∀ j < k, GoesOn interval timeout s.clock.now check s j
  stops : Stops interval timeout s.clock.now check 0 none s k r.1
  left : r.2 = (checked interval check s k).2

theorem waitFor_course (paced : 0 < interval.nanos)
    (forward : ∀ t, t.clock.now ≤ (check t).2.clock.now) (s : Timed σ) :
    ∃ k, Course interval timeout check s k (waitFor interval timeout check s) := by
  have enough : checkLimit interval timeout ≤ 0 + attemptLimit interval timeout :=
    (checkLimit_le paced).trans (Nat.zero_add _).ge
  have slept : s.clock.now.nanos + 0 * interval.nanos ≤ s.clock.now.nanos := by simp
  obtain ⟨checks, inTime, loop⟩ := waitFrom_loop 0 none s paced forward (Nat.succ_pos _) enough slept
  obtain ⟨k, rfl, on, stops, left⟩ := loop.course
  exact ⟨k, by omega, loop, on, stops, left⟩

section Still

variable (still : ∀ t, (check t).2.clock = t.clock)
include still

theorem forward_of_still (t : Timed σ) : t.clock.now ≤ (check t).2.clock.now := by
  rw [still, Duration.le_def]

theorem now_checked (k : Nat) : (checked interval check s k).2.clock.now.nanos =
    s.clock.now.nanos + k * interval.nanos := by
  rw [checked, still, now_before still]

theorem elapsed_checked (k : Nat) :
    (checked interval check s k).2.clock.now - s.clock.now = ⟨k * interval.nanos⟩ :=
  congrArg Duration.mk (by rw [now_checked still, Nat.add_sub_cancel_left])

end Still

/-- A wait from here ends: its loop does after at most `⌈timeout / interval⌉ + 1` checks, runs out
behind the second one at the earliest, and takes less than an interval beyond the deadline. -/
def Bounded (interval timeout : Duration) (check : StateM (Timed σ) Check) (s : Timed σ) : Prop :=
  ∃ checks, Loop interval timeout s.clock.now check 0 none s checks
      (waitFor interval timeout check s) ∧
    checks ≤ timeout.nanos ⌈/⌉ interval.nanos + 1 ∧
    (∀ elapsed attempts lastError,
      (waitFor interval timeout check s).1 = .timedOut elapsed attempts lastError → 2 ≤ checks) ∧
    (waitFor interval timeout check s).2.clock.now < s.clock.now + (timeout + interval)

/-- An interval of some length that is no longer than the deadline bounds the wait. -/
theorem waitFor_bounded (paced : 0 < interval.nanos) (fits : interval ≤ timeout)
    (still : ∀ t, (check t).2.clock = t.clock) (s : Timed σ) :
    Bounded interval timeout check s := by
  obtain ⟨k, inTime, loop, on, stops, left⟩ := waitFor_course paced (forward_of_still still) s
  refine ⟨k + 1, loop, inTime, fun elapsed attempts lastError timedOut => ?_, ?_⟩
  · -- at the first check no time has passed yet
    rw [timedOut] at stops
    cases stops with
    | late _ passed =>
      rw [elapsed_checked still] at passed
      have passed : timeout.nanos ≤ k * interval.nanos := passed
      have := Duration.le_def.mp fits
      by_contra first
      have none : k = 0 := by omega
      rw [none] at passed
      omega
  · rw [left, Duration.lt_def, now_checked still, Duration.nanos_add, Duration.nanos_add]
    apply Nat.add_lt_add_left
    cases k with
    | zero => omega
    | succ k =>
      have := (lt_checkLimit_iff paced).mp inTime
      rw [Nat.succ_mul]
      omega

end Poll
end Resilience
