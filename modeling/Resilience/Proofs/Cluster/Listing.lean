import Resilience.Proofs.Cluster.Answer
import Resilience.Proofs.Scenario.Watch
/-! # Listings one after another

What a cluster answers when a kind is listed again and again: the entries of its script in order,
the last of them forever, or what is stored if there is no script.
-/
namespace Resilience

namespace Script

variable {α : Type}

theorem next?_eq (s : Script α) : s.next? = s[min 0 (s.length - 1)]? := by
  cases s <;> simp [next?]

/-- After one answer the others come as before, the last one forever. -/
theorem getElem?_rest (s : Script α) (k : Nat) :
    s.rest[min k (s.rest.length - 1)]? = s[min (k + 1) (s.length - 1)]? := by
  match s with
  | [] => simp [rest]
  | [_] => simp [rest]
  | a :: b :: as =>
    have index : min (k + 1) ((a :: b :: as).length - 1) =
        min k ((b :: as).length - 1) + 1 := by
      simp only [List.length_cons]
      omega
    rw [index, List.getElem?_cons_succ]
    rfl

/-- The script of a key has a next answer, or there is nothing to answer with. -/
theorem lookup_cases {κ : Type} [DecidableEq κ] (d : List (κ × Script α)) (k : κ) :
    (∃ s a, Dict.find? d k = some s ∧ s.next? = some a ∧
      ((Dict.find? d k).bind fun s => s.next?.map fun a => (a, s)) = some (a, s)) ∨
    ((Dict.find? d k).bind next? = none ∧
      ((Dict.find? d k).bind fun s => s.next?.map fun a => (a, s)) = none) := by
  cases found : Dict.find? d k with
  | none => exact .inr ⟨rfl, rfl⟩
  | some s =>
    rw [Option.bind_some, Option.bind_some]
    cases next : s.next? with
    | none => exact .inr ⟨rfl, rfl⟩
    | some a => exact .inl ⟨s, a, rfl, next, rfl⟩

end Script

namespace ScriptedCluster

def listing (c : ScriptedCluster) (kind : String) (ns : Option String) (k : Nat) :
    Except ClusterError (List Json) :=
  ((Dict.find? c.listScripts kind).bind fun s => s[min k (s.length - 1)]?).getD
    (.ok (c.storedObjects kind ns))

variable (c : ScriptedCluster) (m : Mapping) (ns : Option String)

/-- A listing is answered by its script, which goes on by one, or from the store. -/
theorem list_cases :
    (∃ s answer, Dict.find? c.listScripts m.kind = some s ∧ s.next? = some answer ∧
      client.perform (.list m ns) c = (answer, { c.record (.list m ns) with
        listScripts := set c.listScripts m.kind s.rest })) ∨
    ((Dict.find? c.listScripts m.kind).bind Script.next? = none ∧
      client.perform (.list m ns) c = (.ok (c.storedObjects m.kind ns), c.record (.list m ns))) := by
  have performed : client.perform (.list m ns) c = (c.record (.list m ns)).list m ns := rfl
  rw [performed]
  unfold list
  rcases Script.lookup_cases (c.record (.list m ns)).listScripts m.kind with
    ⟨s, answer, scripted, next, looked⟩ | ⟨none, looked⟩
  · left
    rw [looked]
    exact ⟨s, answer, scripted, next, rfl⟩
  · right
    rw [looked]
    exact ⟨none, rfl⟩

theorem answer_list : (client.perform (.list m ns) c).1 = c.listing m.kind ns 0 := by
  rcases list_cases c m ns with ⟨s, answer, scripted, next, performed⟩ | ⟨none, performed⟩
  · rw [performed, listing, scripted, Option.bind_some, ← Script.next?_eq, next]
    rfl
  · rw [performed, listing]
    simp only [← Script.next?_eq, none]
    rfl

theorem listing_list (k : Nat) :
    (client.perform (.list m ns) c).2.listing m.kind ns k = c.listing m.kind ns (k + 1) := by
  rcases list_cases c m ns with ⟨s, answer, scripted, next, performed⟩ | ⟨none, performed⟩
  · rw [performed, listing, listing, scripted]
    simp only [set, Dict.find?, if_pos, Option.bind_some, Script.getElem?_rest]
    rfl
  · rw [performed]
    change c.listing m.kind ns k = _
    cases scripted : Dict.find? c.listScripts m.kind with
    -- without an entry left every listing is of the store, which stays as it is
    | none => rw [listing, listing, scripted]; rfl
    | some s =>
      rw [scripted, Option.bind_some, Script.next?_eq_none_iff] at none
      rw [listing, listing, scripted, none]
      rfl

theorem listing_list_of_ne {kind : String} (other : kind ≠ m.kind) (ns' : Option String) (k : Nat) :
    (client.perform (.list m ns) c).2.listing kind ns' k = c.listing kind ns' k := by
  rcases list_cases c m ns with ⟨s, answer, scripted, next, performed⟩ | ⟨none, performed⟩
  · rw [performed, listing]
    simp only [set, Dict.find?, if_neg other, Dict.find?_erase_of_ne _ other]
    rfl
  · rw [performed]
    rfl

theorem answerAfter_list (k : Nat) :
    client.answerAfter (.list m ns) c k = c.listing m.kind ns k := by
  induction k generalizing c with
  | zero => exact answer_list c m ns
  | succ k ih => rw [Client.answerAfter_succ, ih, listing_list]

theorem listing_repeated {kind : String} (other : kind ≠ m.kind) (ns' : Option String) (j k : Nat) :
    (client.repeated (.list m ns) c k).listing kind ns' j = c.listing kind ns' j := by
  induction k with
  | zero => rfl
  | succ k ih => rw [Client.repeated, listing_list_of_ne _ _ _ other, ih]

end ScriptedCluster
end Resilience
