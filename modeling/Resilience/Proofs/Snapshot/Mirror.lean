import Mathlib.Data.List.Perm.Basic
import Mathlib.Data.List.Zip
import Resilience.Proofs.Snapshot.Pairing
/-! # Comparing the other way round

A comparison and the one with its sides swapped match up the same entries: name by name both lay
the entries of one side beside those of the other.
-/
namespace Resilience

section Beside

variable {α β : Type}

/-- Entries laid beside others in order; those that are left over have nothing beside them. -/
def beside : List α → List α → List (α × Option α)
  | [], _ => []
  | a :: as, bs => (a, bs.head?) :: beside as bs.tail

variable {name : α → String} {candidate earlier rest items : List α}

theorem pairBehind_filter (n : String) :
    (pairBehind name candidate earlier rest).filter (fun p => name p.1 = n) =
      beside (namesakes name n rest)
        ((namesakes name n candidate).drop (namesakes name n earlier).length) := by
  induction rest generalizing earlier with
  | nil => rfl
  | cons a rest ih =>
    rw [pairBehind]
    by_cases same : name a = n
    · subst same
      rw [List.filter_cons_of_pos (by simp), ih, namesakes_cons_self rfl, namesakes_cons_self rfl,
        beside, List.head?_drop, List.tail_drop, List.length_cons]
    · rw [List.filter_cons_of_neg (by simpa using same), ih, namesakes_cons_of_ne same,
        namesakes_cons_of_ne same]

theorem pairByName_filter (n : String) :
    (pairByName name items candidate).filter (fun p => name p.1 = n) =
      beside (namesakes name n items) (namesakes name n candidate) := by
  rw [pairByName_eq]
  exact pairBehind_filter n

theorem changes_beside (change? : α → α → Option β) (as bs : List α) :
    changes change? (beside as bs) = (as.zip bs).filterMap fun p => change? p.1 p.2 := by
  induction as generalizing bs with
  | nil => rfl
  | cons a as ih =>
    cases bs with
    | nil =>
      have tail := ih []
      simp only [changes, List.zip_nil_right, List.filterMap_nil] at tail
      simp [changes, beside, tail]
    | cons b bs =>
      have tail := ih bs
      simp only [changes] at tail
      simp only [changes, beside, List.head?_cons, List.tail_cons, List.zip_cons_cons,
        List.filterMap_cons, Option.bind_some, tail]

theorem unmatched_none (a : α) (pairs : List (α × Option α)) :
    unmatched name ((a, none) :: pairs) = name a :: unmatched name pairs := rfl

theorem unmatched_some (a b : α) (pairs : List (α × Option α)) :
    unmatched name ((a, some b) :: pairs) = unmatched name pairs := rfl

theorem length_unmatched_beside (as bs : List α) :
    (unmatched name (beside as bs)).length = as.length - bs.length := by
  induction as generalizing bs with
  | nil => simp [unmatched, beside]
  | cons a as ih =>
    cases bs with
    | nil =>
      rw [beside, List.head?_nil, unmatched_none, List.length_cons, List.tail_nil, ih]
      rfl
    | cons b bs =>
      rw [beside, List.head?_cons, unmatched_some, List.tail_cons, ih, List.length_cons,
        List.length_cons, Nat.succ_sub_succ]

theorem length_namesakes (n : String) (items : List α) :
    (namesakes name n items).length = (items.map name).count n := by
  rw [namesakes, List.count, List.countP_map, List.countP_eq_length_filter]
  rfl

/-- Changes that bear the name of their entry are those of a name among the pairs of that name. -/
theorem changes_filter {change? : α → α → Option β} {nameOf : β → String}
    (named : ∀ a b c, change? a b = some c → nameOf c = name a) (n : String)
    (pairs : List (α × Option α)) :
    (changes change? pairs).filter (fun c => nameOf c = n) =
      changes change? (pairs.filter fun p => name p.1 = n) := by
  rw [changes, changes, List.filter_filterMap, List.filterMap_filter]
  apply List.filterMap_congr
  rintro ⟨a, other⟩ -
  cases made : other.bind (change? a) with
  | none => simp
  | some c =>
    obtain ⟨b, rfl, found⟩ := Option.bind_eq_some_iff.mp made
    simp [named a b c found, Option.filter]

theorem count_unmatched (n : String) (pairs : List (α × Option α)) :
    (unmatched name pairs).count n =
      (unmatched name (pairs.filter fun p => name p.1 = n)).length := by
  induction pairs with
  | nil => rfl
  | cons p pairs ih =>
    obtain ⟨a, other⟩ := p
    by_cases same : name a = n
    · rw [List.filter_cons_of_pos (by simpa using same)]
      cases other with
      | none => rw [unmatched_none, unmatched_none, same, List.count_cons_self, ih,
          List.length_cons]
      | some b => rw [unmatched_some, unmatched_some, ih]
    · rw [List.filter_cons_of_neg (by simpa using same)]
      cases other with
      | none => rw [unmatched_none, List.count_cons_of_ne same, ih]
      | some b => rw [unmatched_some, ih]

end Beside

def ChangedTest.mirrored (c : ChangedTest) : ChangedTest := ⟨c.name, c.after, c.before⟩

namespace TestDifference

variable {A B : List TestCase}

theorem change?_eq_some_iff {c other : TestCase} {change : ChangedTest} :
    c.change? other = some change ↔
      other.status ≠ c.status ∧ change = ⟨c.name, c.status, other.status⟩ := by
  unfold TestCase.change?
  split
  · next differs => simp [differs, eq_comm]
  · next agrees => simp [not_not.mp agrees]

/-- The changes of a name are where the outcomes of both sides differ, taken in order. -/
theorem changed_filter (n : String) : (of A B).changed.filter (fun c => c.name = n) =
    (((outcomes n A).zip (outcomes n B)).filter fun p => p.1 ≠ p.2).map fun p =>
      ⟨n, p.1, p.2⟩ := by
  have named : ∀ (a b : TestCase) c, a.change? b = some c → c.name = a.name := by
    intro a b c made
    obtain ⟨-, rfl⟩ := change?_eq_some_iff.mp made
    rfl
  have laid : (of A B).changed.filter (fun c => c.name = n) =
      ((namesakes TestCase.name n A).zip (namesakes TestCase.name n B)).filterMap fun p =>
        p.1.change? p.2 := by
    rw [← changes_beside, ← pairByName_filter, ← changes_filter named]
    rfl
  rw [laid, outcomes, outcomes, List.zip_map, List.filter_map, List.map_map,
    ← List.filterMap_eq_filter, List.map_filterMap]
  apply List.filterMap_congr
  rintro ⟨a, b⟩ inZip
  have first : a.name = n := by
    simpa using (List.mem_filter.mp (List.of_mem_zip inZip).1).2
  unfold TestCase.change?
  by_cases agree : b.status = a.status
  · simp [Option.guard, agree]
  · simp [Option.guard, agree, Ne.symm agree, first]

/-- Of one name, both comparisons lay the same outcomes side by side. -/
theorem changed_filter_swapped (n : String) : (of B A).changed.filter (fun c => c.name = n) =
    ((of A B).changed.filter fun c => c.name = n).map ChangedTest.mirrored := by
  rw [changed_filter, changed_filter, ← List.zip_swap, List.filter_map, List.map_map, List.map_map]
  congr 1
  apply List.filter_congr
  intro p _
  exact decide_eq_decide.mpr ne_comm

/-- A comparison of tests sets the outcomes of a name side by side in their order. With its sides
swapped it finds the same changes the other way round, and what it misses of a name is what one side
has of it beyond the other. -/
theorem swapped_is_mirror (A B : List TestCase) :
    (∀ n, (of A B).changed.filter (fun c => c.name = n) =
      (((outcomes n A).zip (outcomes n B)).filter fun p => p.1 ≠ p.2).map fun p => ⟨n, p.1, p.2⟩) ∧
    (of B A).changed.Perm ((of A B).changed.map ChangedTest.mirrored) ∧
    ∀ n, (of A B).missing.count n =
      (A.map TestCase.name).count n - (B.map TestCase.name).count n := by
  refine ⟨changed_filter, ?_, ?_⟩
  · -- a change counts among those of its name, where both sides are laid out alike
    apply List.perm_iff_count.mpr
    intro c
    have mirrored_name : ((of A B).changed.map ChangedTest.mirrored).filter
        (fun c' => c'.name = c.name) =
        ((of A B).changed.filter fun c' => c'.name = c.name).map ChangedTest.mirrored := by
      rw [List.filter_map]
      rfl
    have own : ∀ changes : List ChangedTest,
        changes.count c = (changes.filter fun c' => c'.name = c.name).count c := by
      intro changes
      rw [List.count_filter (by simp)]
    rw [own, own (List.map _ _), mirrored_name, changed_filter_swapped]
  · intro n
    calc (of A B).missing.count n
        = (unmatched TestCase.name
            ((pairByName TestCase.name A B).filter fun p => p.1.name = n)).length :=
          count_unmatched n _
      _ = (namesakes TestCase.name n A).length - (namesakes TestCase.name n B).length := by
          rw [pairByName_filter, length_unmatched_beside]
      _ = (A.map TestCase.name).count n - (B.map TestCase.name).count n := by
          rw [length_namesakes, length_namesakes]

end TestDifference
end Resilience
