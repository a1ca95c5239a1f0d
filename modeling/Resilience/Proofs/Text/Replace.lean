import Resilience.Text.Split
/-! # Replacing marks part by part

What a text becomes can be told from its parts: a mark becomes its value, and a part that holds no
beginning of a mark stays as it is.
-/
namespace Resilience.Text

variable {mark value : List Char}

/-- Behind the beginning of a mark its other characters are passed over. -/
theorem replaceFrom_length (w rest : List Char) :
    replaceFrom mark value w.length (w ++ rest) = replaceFrom mark value 0 rest := by
  induction w with
  | nil => rfl
  | cons c w ih => exact ih

/-- In front of any others the first characters become the second, and the others what they become
without them. -/
def Becomes (mark value v w : List Char) : Prop :=
  ∀ rest, replaceFrom mark value 0 (v ++ rest) = w ++ replaceFrom mark value 0 rest

def Stays (mark value w : List Char) : Prop := Becomes mark value w w

namespace Becomes

variable {v v' w w' : List Char}

theorem nil : Becomes mark value [] [] := fun _ => rfl

theorem append (h : Becomes mark value v w) (h' : Becomes mark value v' w') :
    Becomes mark value (v ++ v') (w ++ w') := by
  intro rest
  rw [List.append_assoc, h, h', List.append_assoc]

theorem replaced {c : Char} {cs : List Char} :
    Becomes (c :: cs) value (c :: cs) value := by
  intro rest
  have found : (c :: cs).isPrefixOf (c :: (cs ++ rest)) = true :=
    List.isPrefixOf_iff_prefix.2 ⟨rest, rfl⟩
  rw [List.cons_append, replaceFrom, if_pos found, List.length_cons, Nat.add_sub_cancel,
    replaceFrom_length]

/-- A character that no mark begins with stays. -/
theorem other {c d : Char} {cs : List Char} (h : d ≠ c) : Stays (c :: cs) value [d] := by
  intro rest
  have missed : (c :: cs).isPrefixOf (d :: rest) = false := by
    simp [List.isPrefixOf, h.symm]
  rw [List.singleton_append, replaceFrom, missed]
  rfl

theorem others {c : Char} {cs w : List Char} (h : ∀ d ∈ w, d ≠ c) : Stays (c :: cs) value w := by
  induction w with
  | nil => exact nil
  | cons d w ih => exact (other (h d (by simp))).append (ih fun e he => h e (by simp [he]))

theorem replace {mark value text result : String}
    (h : Becomes mark.toList value.toList text.toList result.toList) :
    Text.replace mark value text = result := by
  have whole := h []
  rw [List.append_nil, replaceFrom, List.append_nil] at whole
  rw [Text.replace, whole, String.ofList_toList]

end Becomes
end Resilience.Text
