/-! # Ordered dictionaries

A dictionary is a list of pairs in ascending key order. Looking up a key after an insertion or
a removal is settled by the key alone, whatever else the dictionary holds.
-/
namespace Resilience

/-- Pairs of a key and its value. -/
abbrev Dict (κ α : Type) := List (κ × α)

namespace Dict

variable {κ α : Type}

def find? [DecidableEq κ] : Dict κ α → κ → Option α
  | [], _ => none
  | (k', v) :: d, k => if k = k' then some v else find? d k

def contains [DecidableEq κ] (d : Dict κ α) (k : κ) : Bool :=
  (find? d k).isSome

def insert [DecidableEq κ] [LT κ] [DecidableLT κ] : Dict κ α → κ → α → Dict κ α
  | [], k, v => [(k, v)]
  | (k', v') :: d, k, v =>
    if k = k' then (k, v) :: d
    else if k < k' then (k, v) :: (k', v') :: d
    else (k', v') :: insert d k v

def erase [DecidableEq κ] (d : Dict κ α) (k : κ) : Dict κ α :=
  d.filter fun p => p.1 ≠ k

/-- Pairs taken one after another, so that the last value of a repeated key stays. -/
def ofList [DecidableEq κ] [LT κ] [DecidableLT κ] (pairs : List (κ × α)) : Dict κ α :=
  pairs.foldl (fun d p => insert d p.1 p.2) []

def keys (d : Dict κ α) : List κ := d.map Prod.fst

def values (d : Dict κ α) : List α := d.map Prod.snd

section Laws

variable [DecidableEq κ] [LT κ] [DecidableLT κ]

omit [LT κ] [DecidableLT κ] in
@[simp] theorem find?_nil (k : κ) : find? ([] : Dict κ α) k = none := rfl

@[simp] theorem find?_insert_self (d : Dict κ α) (k : κ) (v : α) :
    find? (insert d k v) k = some v := by
  induction d with
  | nil => simp [insert, find?]
  | cons p d ih =>
    by_cases h : k = p.1 <;> by_cases hl : k < p.1 <;> simp [insert, find?, h, hl, ih]

theorem find?_insert_of_ne (d : Dict κ α) {k k' : κ} (v : α) (h : k' ≠ k) :
    find? (insert d k v) k' = find? d k' := by
  induction d with
  | nil => simp [insert, find?, h]
  | cons p d ih =>
    by_cases he : k = p.1
    · subst he; simp [insert, find?, h]
    · by_cases hl : k < p.1 <;> simp [insert, find?, he, hl, h, ih]

omit [LT κ] [DecidableLT κ] in
@[simp] theorem find?_erase_self (d : Dict κ α) (k : κ) : find? (erase d k) k = none := by
  induction d with
  | nil => rfl
  | cons p d ih =>
    by_cases h : p.1 = k
    · simpa [erase, h] using ih
    · have h' : ¬k = p.1 := fun e => h e.symm
      simpa [erase, h, find?, h'] using ih

omit [LT κ] [DecidableLT κ] in
theorem find?_erase_of_ne (d : Dict κ α) {k k' : κ} (h : k' ≠ k) :
    find? (erase d k) k' = find? d k' := by
  induction d with
  | nil => rfl
  | cons p d ih =>
    by_cases hp : p.1 = k
    · subst hp
      simpa [erase, find?, h] using ih
    · by_cases hk : k' = p.1
      · subst hk; simp [erase, hp, find?]
      · simpa [erase, hp, find?, hk] using ih

end Laws

end Dict
end Resilience
