import Mathlib.Algebra.BigOperators.Group.Finset.Basic
import Resilience.Proofs.Poll.Loop
/-! # Waits over a script

A script tells what each check of a wait comes to and how long it takes. The first check that
settles anything decides how the wait ends, and slow checks neither add to their number nor go on
behind the deadline. What cannot be read counts as not yet, so that it shows in nothing but the
error that the wait remembers.
-/
namespace Resilience

namespace Poll

open Finset (range)

structure Span where
  began : Duration
  ended : Duration
deriving DecidableEq, Repr

/-- Checks that follow a script: what they come to and how long they take. Each is written down. -/
def played {α : Type} (script : Nat → α) (delays : Nat → Duration) :
    StateM (Timed (List Span)) α := fun s =>
  let made := s.state.length
  let clock := s.clock.advance (delays made)
  (script made, ⟨clock, s.state ++ [⟨s.clock.now, clock.now⟩]⟩)

section Times

variable (interval : Duration) (delays : Nat → Duration)

/-- How long after the start of a wait a check begins: behind those before it, and a sleep behind
each of them. -/
def beginning (k : Nat) : Duration :=
  ⟨∑ j ∈ range k, (delays j).nanos + k * interval.nanos⟩

def ending (k : Nat) : Duration := beginning interval delays k + delays k

theorem nanos_ending (k : Nat) : (ending interval delays k).nanos =
    ∑ j ∈ range (k + 1), (delays j).nanos + k * interval.nanos := by
  rw [ending, Duration.nanos_add, beginning, Finset.sum_range_succ, Nat.add_right_comm]

theorem beginning_zero : beginning interval delays 0 = .zero :=
  congrArg Duration.mk (by simp)

theorem beginning_succ (k : Nat) :
    beginning interval delays (k + 1) = ending interval delays k + interval := by
  refine congrArg Duration.mk ?_
  rw [nanos_ending, Nat.succ_mul, Nat.add_assoc]

def spans (start : Duration) (n : Nat) : List Span :=
  (List.range n).map fun j =>
    ⟨start + beginning interval delays j, start + ending interval delays j⟩

@[simp] theorem length_spans (start : Duration) (n : Nat) :
    (spans interval delays start n).length = n := by
  simp [spans]

theorem spans_succ (start : Duration) (n : Nat) : spans interval delays start (n + 1) =
    spans interval delays start n ++
      [⟨start + beginning interval delays n, start + ending interval delays n⟩] := by
  simp [spans, List.range_succ]

end Times

section Played

variable (interval timeout : Duration) (script : Nat → Check) (delays : Nat → Duration)
  (clock : Clock)

def errors (n : Nat) : List String := ((List.range n).map script).filterMap Check.message?

inductive Decides (k : Nat) : PollOutcome → Prop
  | holds (settled : script k = .holds) :
      Decides k (.converged (ending interval delays k) (k + 1))
  | givesUp {reason : String} (settled : script k = .fatal reason) : Decides k (.aborted reason)
  | late (unsettled : (script k).IsOpen) (passed : timeout ≤ ending interval delays k) :
      Decides k (.timedOut (ending interval delays k) (k + 1) (errors script (k + 1)).getLast?)

structure Plays (k : Nat) (r : PollOutcome × Timed (List Span)) : Prop where
  inTime : k < checkLimit interval timeout
  loop : Loop interval timeout clock.now (played script delays) 0 none ⟨clock, []⟩ (k + 1) r
  on : ∀ j < k, (script j).IsOpen ∧ ending interval delays j < timeout
  decides : Decides interval timeout script delays k r.1
  left : r.2 = ⟨⟨clock.now + ending interval delays k, clock.sleeps + k⟩,
    spans interval delays clock.now (k + 1)⟩

variable {interval timeout script delays clock}

namespace Decides

variable {k : Nat} {outcome : PollOutcome} (h : Decides interval timeout script delays k outcome)
include h

theorem eq_of_holds (settled : script k = .holds) :
    outcome = .converged (ending interval delays k) (k + 1) := by
  cases h with
  | holds => rfl
  | givesUp settled' => cases settled.symm.trans settled'
  | late unsettled =>
    rw [settled] at unsettled
    cases unsettled

theorem eq_of_fatal {reason : String} (settled : script k = .fatal reason) :
    outcome = .aborted reason := by
  cases h with
  | holds settled' => cases settled.symm.trans settled'
  | givesUp settled' =>
    cases settled.symm.trans settled'
    rfl
  | late unsettled =>
    rw [settled] at unsettled
    cases unsettled

theorem late_of_open (unsettled : (script k).IsOpen) : timeout ≤ ending interval delays k ∧
    outcome = .timedOut (ending interval delays k) (k + 1) (errors script (k + 1)).getLast? := by
  cases h with
  | holds settled | givesUp settled =>
    rw [settled] at unsettled
    cases unsettled
  | late _ passed => exact ⟨passed, rfl⟩

end Decides

theorem played_forward (t : Timed (List Span)) :
    t.clock.now ≤ (played script delays t).2.clock.now :=
  Nat.le_add_right _ _

theorem before_played (k : Nat) : before interval (played script delays) ⟨clock, []⟩ k =
    ⟨⟨clock.now + beginning interval delays k, clock.sleeps + k⟩,
      spans interval delays clock.now k⟩ := by
  induction k with
  | zero =>
    rw [beginning_zero]
    rfl
  | succ k ih =>
    rw [before, ih, played, length_spans, spans_succ, beginning_succ, ending,
      ← Duration.add_assoc, ← Duration.add_assoc]
    rfl

theorem checked_played (k : Nat) : checked interval (played script delays) ⟨clock, []⟩ k =
    (script k, ⟨⟨clock.now + ending interval delays k, clock.sleeps + k⟩,
      spans interval delays clock.now (k + 1)⟩) := by
  rw [checked, before_played, played, length_spans, spans_succ, ending, ← Duration.add_assoc]
  rfl

variable (script delays) in
/-- Checks that come to what a script says, in the times that it says, are decided by its entries. -/
theorem Course.decides {σ : Type} {check : StateM (Timed σ) Check} {s : Timed σ} {k : Nat}
    {r : PollOutcome × Timed σ} (h : Course interval timeout check s k r)
    (answer : ∀ j, (checked interval check s j).1 = script j)
    (elapsed : ∀ j, (checked interval check s j).2.clock.now - s.clock.now =
      ending interval delays j) :
    (∀ j < k, (script j).IsOpen ∧ ending interval delays j < timeout) ∧
      Decides interval timeout script delays k r.1 := by
  obtain ⟨-, -, on, stops, -⟩ := h
  refine ⟨fun j hj => ?_, ?_⟩
  · have := on j hj
    rwa [GoesOn, elapsed, answer] at this
  · generalize r.1 = outcome at stops
    cases stops with
    | holds settled =>
      rw [elapsed, Nat.zero_add]
      exact .holds ((answer k).symm.trans settled)
    | givesUp settled => exact .givesUp ((answer k).symm.trans settled)
    | late unsettled passed =>
      have told : answers interval check s (k + 1) = (List.range (k + 1)).map script :=
        List.map_congr_left fun j _ => answer j
      rw [elapsed] at passed
      rw [elapsed, Nat.zero_add, foldl_remembered, told, Option.or_none]
      exact .late (answer k ▸ unsettled) passed

theorem Course.plays {k : Nat} {r : PollOutcome × Timed (List Span)}
    (h : Course interval timeout (played script delays) ⟨clock, []⟩ k r) :
    Plays interval timeout script delays clock k r := by
  obtain ⟨on, decides⟩ := h.decides script delays
    (fun j => by rw [checked_played]) (fun j => by rw [checked_played, Duration.add_sub_cancel_left])
  exact ⟨h.inTime, h.loop, on, decides, h.left.trans (by rw [checked_played])⟩

variable (timeout) in
theorem waitFor_plays (paced : 0 < interval.nanos) (script : Nat → Check)
    (delays : Nat → Duration) (clock : Clock) : ∃ k, Plays interval timeout script delays clock k
      (waitFor interval timeout (played script delays) ⟨clock, []⟩) :=
  (waitFor_course paced played_forward _).imp fun _ course => course.plays

end Played

/-! ## Checks that take no time -/

section Instant

variable {interval timeout : Duration} {script : Nat → Check} {clock : Clock}

/-- What a wait leaves that made so many checks, none of which took any time: it slept once between
two of them. -/
structure Made (interval : Duration) (clock : Clock) (checks : Nat) (s : Timed (List Span)) :
    Prop where
  counted : s.state.length = checks
  slept : s.clock = ⟨clock.now + ⟨(checks - 1) * interval.nanos⟩, clock.sleeps + (checks - 1)⟩

theorem ending_instant (k : Nat) : ending interval (fun _ => .zero) k = ⟨k * interval.nanos⟩ := by
  refine congrArg Duration.mk ?_
  have none : ∑ _j ∈ range k, Duration.zero.nanos = 0 := Finset.sum_const_zero
  rw [beginning, none, Nat.zero_add]
  rfl

/-- Of checks that take no time this one decides a wait: those before it leave it open. -/
structure First (interval timeout : Duration) (script : Nat → Check) (k : Nat)
    (outcome : PollOutcome) : Prop where
  inTime : k < checkLimit interval timeout
  unsettled : ∀ j < k, (script j).IsOpen
  decides : Decides interval timeout script (fun _ => .zero) k outcome

namespace First

variable {k : Nat} {outcome : PollOutcome}

/-- A check that leaves a wait open decides it only where no other is left in time. -/
theorem last_of_open (h : First interval timeout script k outcome) (paced : 0 < interval.nanos)
    (unsettled : (script k).IsOpen) : k + 1 = checkLimit interval timeout := by
  obtain ⟨passed, -⟩ := h.decides.late_of_open unsettled
  rw [ending_instant] at passed
  exact eq_checkLimit_of_late paced h.inTime passed

theorem eq_of_first (h : First interval timeout script k outcome) (paced : 0 < interval.nanos)
    {first : Nat} (inTime : first < checkLimit interval timeout)
    (unsettled : ∀ j < first, (script j).IsOpen) (settled : ¬(script first).IsOpen) :
    k = first := by
  rcases lt_trichotomy k first with before | same | behind
  · have := h.last_of_open paced (unsettled k before)
    omega
  · exact same
  · exact absurd (h.unsettled first behind) settled

end First

namespace Plays

variable {k : Nat} {r : PollOutcome × Timed (List Span)}

theorem made (h : Plays interval timeout script (fun _ => .zero) clock k r) :
    Made interval clock (k + 1) r.2 := by
  rw [h.left, ending_instant]
  exact ⟨length_spans .., rfl⟩

theorem first (h : Plays interval timeout script (fun _ => .zero) clock k r) :
    First interval timeout script k r.1 :=
  ⟨h.inTime, fun j hj => (h.on j hj).1, h.decides⟩

theorem last_of_open (h : Plays interval timeout script (fun _ => .zero) clock k r)
    (paced : 0 < interval.nanos) (unsettled : (script k).IsOpen) :
    k + 1 = checkLimit interval timeout :=
  h.first.last_of_open paced unsettled

theorem eq_of_first (h : Plays interval timeout script (fun _ => .zero) clock k r)
    (paced : 0 < interval.nanos) {first : Nat} (inTime : first < checkLimit interval timeout)
    (unsettled : ∀ j < first, (script j).IsOpen) (settled : ¬(script first).IsOpen) :
    k = first :=
  h.first.eq_of_first paced inTime unsettled settled

/-- A condition that holds from some time on is found to hold, if that is not behind the deadline. -/
theorem found (h : Plays interval timeout script (fun _ => .zero) clock k r)
    (paced : 0 < interval.nanos) {t : Duration} (ahead : t ≤ timeout)
    (held : ∀ j, t.nanos ≤ j * interval.nanos → script j = .holds)
    (harmless : ∀ j reason, script j ≠ .fatal reason) :
    ∃ elapsed attempts, r.1 = .converged elapsed attempts ∧ elapsed < t + interval := by
  have soon : k * interval.nanos < t.nanos + interval.nanos := by
    cases k with
    | zero => omega
    | succ j =>
      -- the check before it came too early
      have early : ¬t.nanos ≤ j * interval.nanos := by
        intro late
        have unsettled := (h.on j (Nat.lt_succ_self j)).1
        rw [held j late] at unsettled
        cases unsettled
      rw [Nat.succ_mul]
      omega
  have settled : script k = .holds := by
    cases answer : script k with
    | holds => rfl
    | fatal reason => exact absurd answer (harmless k reason)
    | notYet | transient _ =>
      have unsettled : (script k).IsOpen := by
        rw [answer]
        trivial
      obtain ⟨passed, -⟩ := h.decides.late_of_open unsettled
      rw [ending_instant] at passed
      exact answer.symm.trans (held k (Nat.le_trans ahead passed))
  rw [h.decides.eq_of_holds settled, ending_instant]
  exact ⟨_, _, rfl, soon⟩

end Plays

variable (timeout) in
/-- A wait over checks that take no time is decided by the first one that settles anything, if it is
made in time, and else runs out at the first one behind the deadline. So a condition that holds from
some time before the deadline on is found to hold less than an interval later. -/
theorem waitFor_decided_by_first (paced : 0 < interval.nanos) (script : Nat → Check)
    (clock : Clock) :
    let limit := timeout.nanos ⌈/⌉ interval.nanos + 1
    let r := waitFor interval timeout (played script fun _ => .zero) ⟨clock, []⟩
    (∀ k < limit, (∀ j < k, (script j).IsOpen) → script k = .holds →
      r.1 = .converged ⟨k * interval.nanos⟩ (k + 1) ∧ Made interval clock (k + 1) r.2) ∧
    (∀ k < limit, (∀ j < k, (script j).IsOpen) → ∀ reason, script k = .fatal reason →
      r.1 = .aborted reason ∧ Made interval clock (k + 1) r.2) ∧
    ((∀ j < limit, (script j).IsOpen) →
      r.1 = .timedOut ⟨(limit - 1) * interval.nanos⟩ limit (errors script limit).getLast? ∧
        Made interval clock limit r.2) ∧
    ∀ t ≤ timeout, (∀ j, t.nanos ≤ j * interval.nanos → script j = .holds) →
      (∀ j reason, script j ≠ .fatal reason) →
      ∃ elapsed attempts, r.1 = .converged elapsed attempts ∧ elapsed < t + interval := by
  intro limit r
  obtain ⟨k, plays⟩ := waitFor_plays timeout paced script (fun _ => .zero) clock
  have made : Made interval clock (k + 1) r.2 := plays.made
  refine ⟨fun first inTime unsettled settled => ?_, fun first inTime unsettled reason settled => ?_,
    fun unsettled => ?_, fun t ahead held harmless => plays.found paced ahead held harmless⟩
  · obtain rfl := plays.eq_of_first paced inTime unsettled (by simp [settled, Check.IsOpen])
    exact ⟨ending_instant k ▸ plays.decides.eq_of_holds settled, made⟩
  · obtain rfl := plays.eq_of_first paced inTime unsettled (by simp [settled, Check.IsOpen])
    exact ⟨plays.decides.eq_of_fatal settled, made⟩
  · have unsettled := unsettled k plays.inTime
    have last : k + 1 = limit := plays.last_of_open paced unsettled
    rw [← last]
    exact ⟨ending_instant k ▸ (plays.decides.late_of_open unsettled).2, made⟩

section WarmingUp

def warmingUp : Nat → Check
  | 0 => .transient "503"
  | 1 => .notYet
  | _ => .holds

def warmingWait (timeout : Duration) : PollOutcome × Timed (List Span) :=
  waitFor (.ofSeconds 5) timeout (played warmingUp fun _ => .zero) ⟨{}, []⟩

/-- With a deadline of 9 s the third check is made behind it, after 10 s, and counts; with one of
5 s it is not made. -/
theorem waitFor_decided_by_first_warmingUp :
    0 < (Duration.ofSeconds 5).nanos ∧
      (warmingWait (.ofSeconds 9)).1 = .converged (.ofSeconds 10) 3 ∧
      Made (.ofSeconds 5) {} 3 (warmingWait (.ofSeconds 9)).2 ∧
      (warmingWait (.ofSeconds 5)).1 = .timedOut (.ofSeconds 5) 2 (some "503") ∧
      Made (.ofSeconds 5) {} 2 (warmingWait (.ofSeconds 5)).2 := by
  have paced : 0 < (Duration.ofSeconds 5).nanos := by decide
  have limit : (Duration.ofSeconds 5).nanos ⌈/⌉ (Duration.ofSeconds 5).nanos + 1 = 2 := by
    decide +kernel
  obtain ⟨found, made⟩ := (waitFor_decided_by_first (.ofSeconds 9) paced warmingUp {}).1
    2 (by decide +kernel) (by decide) rfl
  obtain ⟨-, -, ranOut, -⟩ := waitFor_decided_by_first (.ofSeconds 5) paced warmingUp {}
  rw [limit] at ranOut
  obtain ⟨late, made'⟩ := ranOut (by decide)
  exact ⟨paced, found, made, late, made'⟩

end WarmingUp

end Instant

/-! ## Slow checks -/

section Slow

variable {interval : Duration} (timeout : Duration)

/-- However long its checks take, a wait ends by itself, after no more checks than without them. It
runs out behind the deadline only, makes no check behind one that ended there, and all of its time
goes by in the checks and in one sleep between two of them. -/
theorem waitFor_slow_checks (paced : 0 < interval.nanos) (script : Nat → Check)
    (delays : Nat → Duration) (clock : Clock) :
    let r := waitFor interval timeout (played script delays) ⟨clock, []⟩
    let checks := r.2.state.length
    Loop interval timeout clock.now (played script delays) 0 none ⟨clock, []⟩ checks r ∧
    checks ≤ timeout.nanos ⌈/⌉ interval.nanos + 1 ∧
    (∀ elapsed attempts lastError, r.1 = .timedOut elapsed attempts lastError →
      timeout ≤ elapsed ∧ r.2.clock.now = clock.now + elapsed) ∧
    (∀ x ∈ r.2.state.dropLast, x.ended < clock.now + timeout) ∧
    (∀ x ∈ r.2.state.getLast?, x.began < clock.now + (timeout + interval)) ∧
    r.2.clock.now.nanos = clock.now.nanos + ∑ j ∈ range checks, (delays j).nanos +
      (checks - 1) * interval.nanos := by
  intro r checks
  obtain ⟨k, inTime, loop, on, decides, left⟩ := waitFor_plays timeout paced script
    delays clock
  have left : r.2 = _ := left
  have count : checks = k + 1 := (congrArg (·.state.length) left).trans (length_spans ..)
  rw [count, left]
  refine ⟨loop, inTime, fun elapsed attempts lastError timedOut => ?_, fun x hx => ?_,
    fun x hx => ?_, ?_⟩
  · have timedOut : (waitFor interval timeout (played script delays) ⟨clock, []⟩).1 = _ := timedOut
    rw [timedOut] at decides
    cases decides with
    | late _ passed => exact ⟨passed, rfl⟩
  · rw [spans_succ, List.dropLast_concat] at hx
    obtain ⟨j, hj, rfl⟩ := List.mem_map.mp hx
    exact Nat.add_lt_add_left (on j (List.mem_range.mp hj)).2 _
  · rw [spans_succ, List.getLast?_concat] at hx
    cases hx
    apply Nat.add_lt_add_left
    cases k with
    | zero =>
      rw [beginning_zero]
      exact Nat.add_pos_right _ paced
    | succ k =>
      rw [beginning_succ]
      exact Nat.add_lt_add_right (on k (Nat.lt_succ_self k)).2 _
  · rw [Duration.nanos_add, nanos_ending, Nat.add_assoc]
    rfl

/-- A wait whose checks take 3 s each, with 4 s between them and a deadline of 10 s. -/
def slowWait : PollOutcome × Timed (List Span) :=
  waitFor (.ofSeconds 4) (.ofSeconds 10) (played (fun _ => .notYet) fun _ => .ofSeconds 3) ⟨{}, []⟩

theorem waitFor_slow_checks_slowWait :
    0 < (Duration.ofSeconds 4).nanos ∧
      slowWait = (.timedOut (.ofSeconds 10) 2 none,
        ⟨⟨.ofSeconds 10, 1⟩, [⟨.zero, .ofSeconds 3⟩, ⟨.ofSeconds 7, .ofSeconds 10⟩]⟩) ∧
      slowWait.2.state.length ≤ (Duration.ofSeconds 10).nanos ⌈/⌉ (Duration.ofSeconds 4).nanos + 1 ∧
      (∀ x ∈ slowWait.2.state.dropLast, x.ended < .zero + .ofSeconds 10) := by
  have paced : 0 < (Duration.ofSeconds 4).nanos := by decide
  obtain ⟨-, few, -, early, -⟩ := waitFor_slow_checks (.ofSeconds 10) paced
    (fun _ => .notYet) (fun _ => .ofSeconds 3) {}
  exact ⟨paced, by decide +kernel, few, early⟩

end Slow

end Poll
end Resilience
