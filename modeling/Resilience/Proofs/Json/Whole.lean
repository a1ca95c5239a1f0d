import Resilience.Proofs.Json.Written
/-! # Whole values

A value whose numbers are integers is read as itself when it has been written. Of other values this
is not known: a double is read by one product or quotient, which need not give the double that was
written.
-/
namespace Resilience

namespace Dict

variable {κ α : Type}

/-- A dictionary in order is what its pairs are gathered to. -/
theorem ofList_eq [LinearOrder κ] {d : Dict κ α} (h : Ascending d) : ofList d = d := by
  have keys : (d.map Prod.fst).Nodup :=
    (List.pairwise_map.mpr h).imp fun less => ne_of_lt less
  refine (ofList_ascending d).ext h fun k => Option.ext fun v => ?_
  rw [find?_ofList_iff keys, find?_iff_mem keys]

end Dict

namespace Json

/-- An integer. The negative zero is one, although it is kept as a double. -/
def Number.Whole : Number → Prop
  | .int _ => True
  | .float x => x = Binary64.zero true

mutual

def numbers : Json → List Number
  | .null | .bool _ | .string _ => []
  | .number n => [n]
  | .array items => itemsNumbers items
  | .object members => membersNumbers members

def itemsNumbers : List Json → List Number
  | [] => []
  | j :: js => j.numbers ++ itemsNumbers js

def membersNumbers : List (String × Json) → List Number
  | [] => []
  | (_, j) :: ms => j.numbers ++ membersNumbers ms

end

theorem mem_itemsNumbers {js : List Json} {n : Number} :
    n ∈ itemsNumbers js ↔ ∃ j ∈ js, n ∈ j.numbers := by
  induction js with
  | nil => simp [itemsNumbers]
  | cons j js ih => simp [itemsNumbers, ih]

theorem mem_membersNumbers {ms : List (String × Json)} {n : Number} :
    n ∈ membersNumbers ms ↔ ∃ m ∈ ms, n ∈ m.2.numbers := by
  induction ms with
  | nil => simp [membersNumbers]
  | cons m ms ih => simp [membersNumbers, ih]

/-- All numbers in a value are integers. As values are read these are the integers of 64 bits,
signed or unsigned; other integers are read as doubles. -/
def Whole (j : Json) : Prop := ∀ n ∈ j.numbers, n.Whole

namespace Whole

theorem array_iff {js : List Json} : Whole (.array js) ↔ ∀ j ∈ js, j.Whole := by
  simp only [Whole, numbers, mem_itemsNumbers]
  exact ⟨fun h j hj n hn => h n ⟨j, hj, hn⟩, fun h n ⟨j, hj, hn⟩ => h j hj n hn⟩

theorem object_iff {ms : Dict String Json} : Whole (.object ms) ↔ ∀ m ∈ ms, m.2.Whole := by
  simp only [Whole, numbers, mem_membersNumbers]
  exact ⟨fun h m hm n hn => h n ⟨m, hm, hn⟩, fun h n ⟨m, hm, hn⟩ => h m hm n hn⟩

theorem inherited : Inherited Whole where
  string _ := by simp [Whole, numbers]
  array := array_iff.mpr
  items := array_iff.mp
  empty := object_iff.mpr (by simp)
  find? h found := object_iff.mp h _ (Dict.mem_of_find? found)
  insert h hj key := object_iff.mpr fun m hm => by
    rcases Dict.mem_insert hm with rfl | hm
    · exact hj
    · exact object_iff.mp h m hm

end Whole

/-- An integer that was read is written as itself. -/
theorem Numeral.number?_ofNumber {n : Number} (h : n.Proper) (whole : n.Whole) :
    (ofNumber n).number? = some n := by
  cases n with
  | int i => exact number?_int h (Decimal.valueFrom_digits _)
  | float x =>
    cases whole
    decide +kernel

mutual

/-- A whole value is read as itself wherever it is not too deep. -/
theorem value?_whole {d : Nat} : ∀ {j : Json}, j.Proper → j.Whole → j.height ≤ d →
    j.tree.value? d = some j
  | .null, _, _, _ | .bool _, _, _, _ | .string _, _, _, _ => rfl
  | .number n, h, whole, _ => by
    rw [tree, Tree.value?, Numeral.number?_ofNumber h (whole n (by simp [numbers]))]
    rfl
  | .array items, h, whole, low => by
    cases d with
    | zero => simp [height] at low
    | succ d =>
      rw [tree, Tree.value?, itemValues?_whole h (Whole.array_iff.mp whole)
        (Nat.le_of_succ_le_succ low)]
      rfl
  | .object members, h, whole, low => by
    cases d with
    | zero => simp [height] at low
    | succ d =>
      rw [tree, Tree.value?, memberValues?_whole h.2 (Whole.object_iff.mp whole)
        (Nat.le_of_succ_le_succ low), Option.map_some, Dict.ofList_eq h.1]

theorem itemValues?_whole {d : Nat} : ∀ {js : List Json}, ItemsProper js →
    (∀ j ∈ js, j.Whole) → itemsHeight js ≤ d → itemValues? d (itemTrees js) = some js
  | [], _, _, _ => rfl
  | j :: js, h, whole, low => by
    rw [List.forall_mem_cons] at whole
    obtain ⟨first, rest⟩ := Nat.max_le.mp low
    rw [itemTrees, itemValues?, value?_whole h.1 whole.1 first,
      itemValues?_whole h.2 whole.2 rest]
    rfl

theorem memberValues?_whole {d : Nat} : ∀ {ms : List (String × Json)}, MembersProper ms →
    (∀ m ∈ ms, m.2.Whole) → membersHeight ms ≤ d → memberValues? d (memberTrees ms) = some ms
  | [], _, _, _ => rfl
  | (key, j) :: ms, h, whole, low => by
    rw [List.forall_mem_cons] at whole
    obtain ⟨first, rest⟩ := Nat.max_le.mp low
    rw [memberTrees, memberValues?, value?_whole h.1 whole.1 first,
      memberValues?_whole h.2 whole.2 rest]
    rfl

end

/-- What is read of a whole value that was written is the value. -/
theorem eq_of_value?_tree {d : Nat} {j i : Json} (h : j.Proper) (whole : j.Whole)
    (value : j.tree.value? d = some i) : i = j := by
  have low := (value?_tree h).mp (Option.isSome_iff_exists.mpr ⟨i, value⟩)
  exact Option.some.inj (value.symm.trans (value?_whole h whole low))

end Json
end Resilience
