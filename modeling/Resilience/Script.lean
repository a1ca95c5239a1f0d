/-! # Scripts

A script is a list of answers that are given one after another; the last one is given forever.
-/
namespace Resilience

abbrev Script (α : Type) := List α

namespace Script

variable {α : Type}

def next? : Script α → Option α
  | [] => none
  | a :: _ => some a

/-- The script after one answer. The last one stays. -/
def rest : Script α → Script α
  | [] => []
  | [a] => [a]
  | _ :: b :: as => b :: as

def after (s : Script α) : Nat → Script α
  | 0 => s
  | n + 1 => s.rest.after n

@[simp] theorem next?_cons (a : α) (s : Script α) : next? (a :: s) = some a := rfl

theorem next?_eq_none_iff (s : Script α) : s.next? = none ↔ s = [] := by
  cases s <;> simp [next?]

end Script
end Resilience
