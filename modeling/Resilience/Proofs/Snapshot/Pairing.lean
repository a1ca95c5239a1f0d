import Mathlib.Data.List.Basic
import Resilience.Snapshot.Difference
/-! # Entries of one name

Matching goes name by name: the entries of a name are matched with the candidate's entries of that
name in their order, and no other name has a say in it. For tests this makes an empty difference an
order, in which the outcomes of every name begin those of the candidate.
-/
namespace Resilience

section Namesakes

variable {α β : Type} (name : α → String)

def namesakes (n : String) (items : List α) : List α := items.filter fun c => name c = n

variable {name} {a : α} {n : String} {items candidate earlier rest : List α}

theorem namesakes_cons_self (same : name a = n) :
    namesakes name n (a :: items) = a :: namesakes name n items := by
  simp [namesakes, same]

theorem namesakes_cons_of_ne (other : name a ≠ n) :
    namesakes name n (a :: items) = namesakes name n items := by
  simp [namesakes, other]

theorem namesakes_append (xs ys : List α) :
    namesakes name n (xs ++ ys) = namesakes name n xs ++ namesakes name n ys :=
  List.filter_append xs ys

/-- The groups hold the entries of each name. -/
def Groups (name : α → String) (byName : Dict String (List α)) (items : List α) : Prop :=
  ∀ n, (Dict.find? byName n).getD [] = namesakes name n items

theorem Groups.join {byName : Dict String (List α)} (h : Groups name byName earlier) (a : α) :
    Groups name (joinGroup name byName a) (earlier ++ [a]) := by
  intro n
  rw [joinGroup, namesakes_append]
  by_cases same : name a = n
  · subst same
    rw [Dict.find?_insert_self, Option.getD_some, h, namesakes_cons_self rfl]
    rfl
  · rw [Dict.find?_insert_of_ne _ _ (Ne.symm same), h, namesakes_cons_of_ne same]
    exact (List.append_nil _).symm

theorem Groups.foldl {byName : Dict String (List α)} (h : Groups name byName earlier) :
    Groups name (items.foldl (joinGroup name) byName) (earlier ++ items) := by
  induction items generalizing earlier byName with
  | nil => rwa [List.append_nil]
  | cons a items ih =>
    rw [List.foldl_cons, List.append_cons]
    exact ih (h.join a)

theorem groups_grouped (name : α → String) (items : List α) :
    Groups name (grouped name items) items := by
  have none : Groups name ([] : Dict String (List α)) [] := fun _ => rfl
  exact none.foldl

/-- The counts are those of the entries that were matched before. -/
def Counts (name : α → String) (seen : Dict String Nat) (earlier : List α) : Prop :=
  ∀ n, (Dict.find? seen n).getD 0 = (namesakes name n earlier).length

theorem Counts.next {seen : Dict String Nat} (h : Counts name seen earlier) (a : α) :
    Counts name (Dict.insert seen (name a) ((Dict.find? seen (name a)).getD 0 + 1))
      (a :: earlier) := by
  intro n
  by_cases same : name a = n
  · subst same
    rw [Dict.find?_insert_self, Option.getD_some, h, namesakes_cons_self rfl, List.length_cons]
  · rw [Dict.find?_insert_of_ne _ _ (Ne.symm same), h, namesakes_cons_of_ne same]

/-- The entries behind some others, each with the candidate's entry behind as many namesakes. -/
def pairBehind (name : α → String) (candidate earlier : List α) : List α → List (α × Option α)
  | [] => []
  | a :: rest =>
    (a, (namesakes name (name a) candidate)[(namesakes name (name a) earlier).length]?) ::
      pairBehind name candidate (a :: earlier) rest

theorem pairFrom_eq {byName : Dict String (List α)} {seen : Dict String Nat}
    (groups : Groups name byName candidate) (counts : Counts name seen earlier) :
    pairFrom name byName seen rest = pairBehind name candidate earlier rest := by
  induction rest generalizing seen earlier with
  | nil => rfl
  | cons a rest ih =>
    have other : ((Dict.find? byName (name a)).bind fun items =>
        items[(Dict.find? seen (name a)).getD 0]?) =
          (namesakes name (name a) candidate)[(namesakes name (name a) earlier).length]? := by
      rw [counts, ← groups]
      cases Dict.find? byName (name a) with
      | none => rfl
      | some items => rfl
    rw [pairFrom, pairBehind, ← ih (counts.next a), ← other]

theorem pairByName_eq : pairByName name items candidate = pairBehind name candidate [] items :=
  pairFrom_eq (groups_grouped name candidate) fun _ => rfl

theorem cons_prefix_drop_iff {x : β} {xs ys : List β} {k : Nat} :
    x :: xs <+: ys.drop k ↔ ys[k]? = some x ∧ xs <+: ys.drop (k + 1) := by
  by_cases inside : k < ys.length
  · rw [List.drop_eq_getElem_cons inside, List.cons_prefix_cons, List.getElem?_eq_getElem inside,
      Option.some_inj, eq_comm]
  · have out : ys.length ≤ k := Nat.not_lt.mp inside
    simp [List.drop_eq_nil_of_le out, List.getElem?_eq_none out]

/-- All entries have a match that agrees with them if, name by name, they begin what is left of the
candidate. -/
theorem pairBehind_agree_iff (f : α → β) :
    (∀ p ∈ pairBehind name candidate earlier rest, p.2.map f = some (f p.1)) ↔
      ∀ n, (namesakes name n rest).map f <+:
        ((namesakes name n candidate).map f).drop (namesakes name n earlier).length := by
  -- on the entries still to be matched; the ones before them say how much is used up
  induction rest generalizing earlier with
  | nil => simp [pairBehind, namesakes]
  | cons a rest ih =>
    rw [pairBehind, List.forall_mem_cons, ih]
    constructor
    · rintro ⟨first, others⟩ n
      have tail := others n
      by_cases same : name a = n
      · subst same
        rw [namesakes_cons_self rfl, List.length_cons] at tail
        rw [namesakes_cons_self rfl, List.map_cons, cons_prefix_drop_iff, List.getElem?_map]
        exact ⟨first, tail⟩
      · rw [namesakes_cons_of_ne same] at tail ⊢
        exact tail
    · intro all
      have here := all (name a)
      rw [namesakes_cons_self rfl, List.map_cons, cons_prefix_drop_iff, List.getElem?_map] at here
      refine ⟨here.1, fun n => ?_⟩
      by_cases same : name a = n
      · subst same
        rw [namesakes_cons_self rfl, List.length_cons]
        exact here.2
      · have tail := all n
        rw [namesakes_cons_of_ne same] at tail ⊢
        exact tail

theorem pairByName_agree_iff (f : α → β) :
    (∀ p ∈ pairByName name items candidate, p.2.map f = some (f p.1)) ↔
      ∀ n, (namesakes name n items).map f <+: (namesakes name n candidate).map f := by
  rw [pairByName_eq]
  exact pairBehind_agree_iff f

theorem pairBehind_getElem? (i : Nat) : (pairBehind name candidate earlier rest)[i]? =
    rest[i]?.map fun a => (a, (namesakes name (name a) candidate)[
      (namesakes name (name a) earlier).length +
        (namesakes name (name a) (rest.take i)).length]?) := by
  induction rest generalizing earlier i with
  | nil => rfl
  | cons b rest ih =>
    cases i with
    | zero => rfl
    | succ i =>
      rw [pairBehind, List.getElem?_cons_succ, ih, List.getElem?_cons_succ]
      refine Option.map_congr fun a _ => ?_
      by_cases same : name b = name a
      · rw [List.take_succ_cons, namesakes_cons_self same, namesakes_cons_self same,
          List.length_cons, List.length_cons, Nat.succ_add_eq_add_succ]
      · rw [List.take_succ_cons, namesakes_cons_of_ne same, namesakes_cons_of_ne same]

/-- An entry with so many namesakes before it is matched with the one behind as many. -/
theorem pairByName_getElem? (i : Nat) : (pairByName name items candidate)[i]? =
    items[i]?.map fun a => (a, (namesakes name (name a) candidate)[
      (namesakes name (name a) (items.take i)).length]?) := by
  rw [pairByName_eq, pairBehind_getElem?]
  simp [namesakes]

/-- Candidates that agree name by name are matched alike. -/
theorem pairByName_congr {candidate' : List α}
    (same : ∀ n, namesakes name n candidate = namesakes name n candidate') :
    pairByName name items candidate = pairByName name items candidate' :=
  pairFrom_eq (fun n => (groups_grouped name candidate n).trans (same n)) (fun _ => rfl)
    |>.trans pairByName_eq.symm

end Namesakes

def outcomes (n : String) (cases : List TestCase) : List String :=
  (namesakes TestCase.name n cases).map TestCase.status

namespace TestDifference

variable {A B : List TestCase}

theorem change?_eq_none_iff {c other : TestCase} :
    c.change? other = none ↔ other.status = c.status := by
  unfold TestCase.change?
  split
  · next differs => simp [differs]
  · next agrees => simpa using agrees

theorem eq_empty_iff : TestDifference.of A B = ⟨[], []⟩ ↔
    ∀ n, outcomes n A <+: outcomes n B := by
  have nothing : TestDifference.of A B = ⟨[], []⟩ ↔
      ∀ p ∈ pairByName TestCase.name A B, p.2.map TestCase.status = some p.1.status := by
    rw [TestDifference.of, TestDifference.mk.injEq, changes, unmatched, List.filterMap_eq_nil_iff,
      List.filterMap_eq_nil_iff, ← forall₂_and]
    refine forall₂_congr fun p _ => ?_
    obtain ⟨c, other⟩ := p
    cases other with
    | none => simp
    | some other => simp [change?_eq_none_iff]
  rw [nothing, pairByName_agree_iff]
  rfl

/-- The empty difference as an order of lists of tests: the outcomes of each name begin those of the
candidate. -/
theorem empty_is_prefix_order :
    (∀ A B : List TestCase, TestDifference.of A B = ⟨[], []⟩ ↔
      ∀ n, outcomes n A <+: outcomes n B) ∧
    (∀ A : List TestCase, TestDifference.of A A = ⟨[], []⟩) ∧
    (∀ A B C : List TestCase, TestDifference.of A B = ⟨[], []⟩ → TestDifference.of B C = ⟨[], []⟩ →
      TestDifference.of A C = ⟨[], []⟩) ∧
    (∀ A B : List TestCase, TestDifference.of A B = ⟨[], []⟩ ∧ TestDifference.of B A = ⟨[], []⟩ ↔
      ∀ n, outcomes n A = outcomes n B) ∧
    ∀ A B B' : List TestCase,
      (∀ n, namesakes TestCase.name n B = namesakes TestCase.name n B') →
      TestDifference.of A B = TestDifference.of A B' := by
  refine ⟨fun A B => eq_empty_iff, fun A => ?_, fun A B C first second => ?_, fun A B => ?_,
    fun A B B' same => ?_⟩
  · exact eq_empty_iff.mpr fun n => List.prefix_refl _
  · rw [eq_empty_iff] at first second ⊢
    intro n
    exact (first n).trans (second n)
  · rw [eq_empty_iff, eq_empty_iff]
    constructor
    · rintro ⟨there, back⟩ n
      exact (there n).eq_of_length_le (back n).length_le
    · intro same
      constructor
      · intro n
        exact same n ▸ List.prefix_refl _
      · intro n
        exact same n ▸ List.prefix_refl _
  · have alike : pairByName TestCase.name A B = pairByName TestCase.name A B' := pairByName_congr same
    rw [TestDifference.of, alike, TestDifference.of]

section Reruns

def firstRun : List TestCase := [⟨"probe", "failed"⟩, ⟨"probe", "passed"⟩, ⟨"drain", "passed"⟩]

def nextRun : List TestCase :=
  [⟨"drain", "passed"⟩, ⟨"probe", "failed"⟩, ⟨"probe", "passed"⟩, ⟨"probe", "skipped"⟩]

/-- The tests of `nextRun`, with the names in another order. -/
def mixedRun : List TestCase :=
  [⟨"probe", "failed"⟩, ⟨"drain", "passed"⟩, ⟨"probe", "passed"⟩, ⟨"probe", "skipped"⟩]

theorem empty_is_prefix_order_reruns :
    (∀ n, namesakes TestCase.name n nextRun = namesakes TestCase.name n mixedRun) ∧
      TestDifference.of firstRun nextRun = TestDifference.of firstRun mixedRun ∧
      TestDifference.of firstRun nextRun = ⟨[], []⟩ ∧
      TestDifference.of nextRun (⟨"reboot", "passed"⟩ :: nextRun) = ⟨[], []⟩ ∧
      TestDifference.of firstRun (⟨"reboot", "passed"⟩ :: nextRun) = ⟨[], []⟩ := by
  have mixed : ∀ n, namesakes TestCase.name n nextRun = namesakes TestCase.name n mixedRun := by
    intro n
    by_cases probe : "probe" = n
    · subst probe
      rfl
    · simp [namesakes, nextRun, mixedRun, List.filter_cons, probe]
  have grown : TestDifference.of firstRun nextRun = ⟨[], []⟩ := by decide
  have widened : TestDifference.of nextRun (⟨"reboot", "passed"⟩ :: nextRun) = ⟨[], []⟩ := by decide
  obtain ⟨-, -, transitive, -, interleaved⟩ := empty_is_prefix_order
  exact ⟨mixed, interleaved _ _ _ mixed, grown, widened, transitive _ _ _ grown widened⟩

end Reruns

end TestDifference
end Resilience
