import Mathlib.Data.List.Nodup
import Mathlib.Data.String.Basic
import Resilience.Dict
/-! # Dictionaries in ascending order

A dictionary whose keys ascend holds every key once, and stays so whatever is put into it. Of the
pairs that are put into it one after another the last one of a key stays.
-/
namespace Resilience.Dict

section Last

variable {κ α : Type} [DecidableEq κ] [LT κ] [DecidableLT κ]

def findLast? : List (κ × α) → κ → Option α
  | [], _ => none
  | (k', v) :: pairs, k => (findLast? pairs k).or (if k = k' then some v else none)

theorem find?_foldl_insert (pairs : List (κ × α)) (d : Dict κ α) (k : κ) :
    find? (pairs.foldl (fun d p => insert d p.1 p.2) d) k = (findLast? pairs k).or (find? d k) := by
  induction pairs generalizing d with
  | nil => rfl
  | cons p pairs ih =>
    rw [List.foldl_cons, ih, findLast?, Option.or_assoc]
    by_cases same : k = p.1
    · rw [if_pos same, same, find?_insert_self]
      rfl
    · rw [if_neg same, find?_insert_of_ne _ _ same]
      rfl

/-- Of the pairs of one key the last one stays. -/
theorem find?_ofList (pairs : List (κ × α)) (k : κ) :
    find? (ofList pairs) k = findLast? pairs k := by
  rw [ofList, find?_foldl_insert, find?_nil, Option.or_none]

end Last

variable {κ α : Type} [LinearOrder κ]

def Ascending (d : Dict κ α) : Prop := d.Pairwise fun p q => p.1 < q.1

namespace Ascending

theorem nil : Ascending ([] : Dict κ α) := List.Pairwise.nil

theorem singleton (p : κ × α) : Ascending [p] := List.pairwise_singleton _ p

variable {d : Dict κ α} {k : κ} {v : α}

theorem find?_eq_none (h : ∀ p ∈ d, p.1 ≠ k) : find? d k = none := by
  induction d with
  | nil => rfl
  | cons p d ih =>
    rw [find?, if_neg (h p (by simp)).symm]
    exact ih fun q hq => h q (by simp [hq])

theorem find?_eq_some (h : Ascending d) (hm : (k, v) ∈ d) : find? d k = some v := by
  induction d with
  | nil => cases hm
  | cons p d ih =>
    obtain ⟨below, rest⟩ := List.pairwise_cons.mp h
    rcases List.mem_cons.mp hm with rfl | hm
    · simp [find?]
    · rw [find?, if_neg (below _ hm).ne']
      exact ih rest hm

end Ascending

omit [LinearOrder κ] in
theorem mem_of_find? [DecidableEq κ] {d : Dict κ α} {k : κ} {v : α} (h : find? d k = some v) :
    (k, v) ∈ d := by
  induction d with
  | nil => cases h
  | cons p d ih =>
    rw [find?] at h
    split at h
    · next same =>
      cases h
      subst same
      exact List.mem_cons_self
    · exact List.mem_cons_of_mem _ (ih h)

omit [LinearOrder κ] in
theorem contains_of_mem [DecidableEq κ] {d : Dict κ α} {p : κ × α} (h : p ∈ d) :
    contains d p.1 := by
  induction d with
  | nil => cases h
  | cons q d ih =>
    rw [contains, find?]
    split
    · rfl
    · next other =>
      rcases List.mem_cons.mp h with rfl | h
      · exact absurd rfl other
      · exact ih h

/-- Where the keys ascend, the values under the keys are all there is. -/
theorem Ascending.ext {d d' : Dict κ α} (h : Ascending d) (h' : Ascending d')
    (same : ∀ k, find? d k = find? d' k) : d = d' := by
  have distinct : ∀ {d : Dict κ α}, Ascending d → d.Nodup := fun h =>
    h.imp fun less => by rintro rfl; exact lt_irrefl _ less
  have members : ∀ p, p ∈ d ↔ p ∈ d' := fun p =>
    ⟨fun hp => mem_of_find? (same p.1 ▸ h.find?_eq_some hp),
      fun hp => mem_of_find? ((same p.1).symm ▸ h'.find?_eq_some hp)⟩
  exact List.Perm.eq_of_pairwise (fun p q _ _ less more => absurd less more.asymm) h h'
    ((List.perm_ext_iff_of_nodup (distinct h) (distinct h')).mpr members)

omit [LinearOrder κ] in
theorem mem_insert [DecidableEq κ] [LT κ] [DecidableLT κ] {d : Dict κ α} {k : κ} {v : α}
    {p : κ × α} (h : p ∈ insert d k v) : p = (k, v) ∨ p ∈ d := by
  induction d with
  | nil => simpa [insert] using h
  | cons q d ih =>
    rw [insert] at h
    split at h
    · rcases List.mem_cons.mp h with h | h
      · exact .inl h
      · exact .inr (List.mem_cons_of_mem _ h)
    · split at h
      · exact List.mem_cons.mp h
      · rcases List.mem_cons.mp h with rfl | h
        · exact .inr List.mem_cons_self
        · exact (ih h).imp_right (List.mem_cons_of_mem _)

namespace Ascending

variable {d : Dict κ α}

theorem insert (h : Ascending d) (k : κ) (v : α) : Ascending (insert d k v) := by
  induction d with
  | nil => exact singleton _
  | cons p d ih =>
    obtain ⟨below, rest⟩ := List.pairwise_cons.mp h
    rw [Dict.insert]
    split
    · next same =>
      subst same
      exact List.pairwise_cons.mpr ⟨below, rest⟩
    · next other =>
      split
      · next less =>
        refine List.pairwise_cons.mpr ⟨fun q hq => ?_, h⟩
        rcases List.mem_cons.mp hq with rfl | hq
        · exact less
        · exact less.trans (below q hq)
      · next less =>
        refine List.pairwise_cons.mpr ⟨fun q hq => ?_, ih rest⟩
        rcases mem_insert hq with rfl | hq
        · exact lt_of_le_of_ne (not_lt.mp less) (Ne.symm other)
        · exact below q hq

theorem insert_eq_map {k : κ} {v : α} (h : Ascending d) (hm : (k, v) ∈ d) (v' : α) :
    Dict.insert d k v' = d.map fun p => if p.1 = k then (k, v') else p := by
  induction d with
  | nil => cases hm
  | cons p d ih =>
    obtain ⟨below, rest⟩ := List.pairwise_cons.mp h
    rw [Dict.insert, List.map_cons]
    split
    · next same =>
      have others : ∀ q ∈ d, q.1 ≠ k := fun q hq => same ▸ (below q hq).ne'
      rw [if_pos same.symm, List.map_congr_left fun q hq => if_neg (others q hq), List.map_id']
    · next other =>
      have later : (k, v) ∈ d := by
        rcases List.mem_cons.mp hm with rfl | hm
        · exact absurd rfl other
        · exact hm
      rw [if_neg (below _ later).asymm, if_neg (Ne.symm other), ih rest later]

/-- What is made of some of the pairs under their own keys has ascending keys again. -/
theorem filterMap {β : Type} {f : κ × α → Option (κ × β)} (h : Ascending d)
    (keeps : ∀ p q, f p = some q → q.1 = p.1) : Ascending (d.filterMap f) := by
  refine List.Pairwise.filterMap f ?_ h
  intro p p' less q hq q' hq'
  rw [keeps p q hq, keeps p' q' hq']
  exact less

theorem foldl_insert (ps : List (κ × α)) (h : Ascending d) :
    Ascending (ps.foldl (fun d p => Dict.insert d p.1 p.2) d) := by
  induction ps generalizing d with
  | nil => exact h
  | cons p ps ih => exact ih (h.insert p.1 p.2)

end Ascending

theorem ofList_ascending (ps : List (κ × α)) : Ascending (ofList ps) :=
  Ascending.nil.foldl_insert ps

theorem mem_ofList {ps : List (κ × α)} {p : κ × α} (h : p ∈ ofList ps) : p ∈ ps := by
  have all : ∀ (ps : List (κ × α)) (d : Dict κ α),
      p ∈ ps.foldl (fun d p => insert d p.1 p.2) d → p ∈ d ∨ p ∈ ps := by
    intro ps
    induction ps with
    | nil => exact fun _ h => .inl h
    | cons q ps ih =>
      intro d h
      rcases ih _ h with h | h
      · rcases mem_insert h with rfl | h
        · exact .inr List.mem_cons_self
        · exact .inl h
      · exact .inr (List.mem_cons_of_mem _ h)
  rcases all ps [] h with h | h
  · cases h
  · exact h

theorem find?_ofList_isSome {ps : List (κ × α)} {p : κ × α} (h : p ∈ ps) :
    (find? (ofList ps) p.1).isSome := by
  rw [find?_ofList]
  induction ps with
  | nil => cases h
  | cons q ps ih =>
    rw [findLast?, Option.isSome_or]
    rcases List.mem_cons.mp h with rfl | h
    · simp
    · simp [ih h]

/-- Under different keys every pair is found. -/
theorem find?_iff_mem {d : Dict κ α} (h : (d.map Prod.fst).Nodup) {k : κ} {v : α} :
    find? d k = some v ↔ (k, v) ∈ d := by
  refine ⟨mem_of_find?, fun mem => ?_⟩
  induction d with
  | nil => cases mem
  | cons p d ih =>
    obtain ⟨new, rest⟩ := List.nodup_cons.mp h
    rcases List.mem_cons.mp mem with rfl | mem
    · exact if_pos rfl
    · have other : k ≠ p.1 := fun same => new (same ▸ List.mem_map_of_mem mem)
      rw [find?, if_neg other]
      exact ih rest mem

/-- Pairs of different keys are all kept. -/
theorem find?_ofList_iff {ps : List (κ × α)} (h : (ps.map Prod.fst).Nodup) {k : κ} {v : α} :
    find? (ofList ps) k = some v ↔ (k, v) ∈ ps := by
  refine ⟨fun found => mem_ofList (mem_of_find? found), fun mem => ?_⟩
  obtain ⟨v', found⟩ := Option.isSome_iff_exists.mp (find?_ofList_isSome mem)
  have same := List.inj_on_of_nodup_map h mem (mem_ofList (mem_of_find? found)) rfl
  cases same
  exact found

end Resilience.Dict
