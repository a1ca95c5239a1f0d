import Resilience.Proofs.Json.Proper
import Resilience.Xml.Record
/-! # Elements in elements

Elements are converted however deep they nest, and their value nests as deep as they do.
-/
namespace Resilience.Xml

def nestedChars : Nat → List Char
  | 0 => ['<', 'a', '>', '<', '/', 'a', '>']
  | n + 1 => '<' :: 'a' :: '>' :: nestedChars n ++ ['<', '/', 'a', '>']

def nested (n : Nat) : String := String.ofList (nestedChars n)

def nestedElement : Nat → Element
  | 0 => .mk "a" [] [] ""
  | n + 1 => .mk "a" [] [nestedElement n] ""

theorem eventsFrom_open (fuel : Nat) (cs : List Char) :
    eventsFrom (fuel + 1) ('<' :: 'a' :: '>' :: cs) = .opened "a" [] :: eventsFrom fuel cs := by
  have tag : openEvent ['a'] = .opened "a" [] := by decide +kernel
  simp [eventsFrom, markup?, tagBody?, tag]

theorem eventsFrom_close (fuel : Nat) (cs : List Char) :
    eventsFrom (fuel + 1) ('<' :: '/' :: 'a' :: '>' :: cs) = .closed "a" :: eventsFrom fuel cs := by
  have name : closingName ['a'] = "a" := by decide +kernel
  simp [eventsFrom, markup?, tagBody?, name]

theorem foldlM_nested (n fuel : Nat) (rest : List Char) (t : TreeState) :
    (eventsFrom (2 * (n + 1) + fuel) (nestedChars n ++ rest)).foldlM TreeState.step t =
      (t.attach (nestedElement n)).bind fun t =>
        (eventsFrom fuel rest).foldlM TreeState.step t := by
  induction n generalizing fuel rest t with
  | zero =>
    rw [show 2 * (0 + 1) + fuel = fuel + 1 + 1 by omega, nestedChars]
    simp only [List.cons_append, List.nil_append, eventsFrom_open, eventsFrom_close]
    rfl
  | succ n ih =>
    rw [show 2 * (n + 1 + 1) + fuel = 2 * (n + 1) + (fuel + 1) + 1 by omega, nestedChars]
    simp only [List.cons_append, List.append_assoc, List.nil_append, eventsFrom_open]
    rw [List.foldlM_cons]
    change (List.foldlM _ _ _) = _
    rw [ih, eventsFrom_close]
    rfl

theorem nestedChars_length (n : Nat) : (nestedChars n).length = 7 * (n + 1) := by
  induction n with
  | zero => rfl
  | succ n ih =>
    simp [nestedChars, ih]
    omega

theorem parse_nested (n : Nat) : Element.parse (nested n) = .ok (nestedElement n) := by
  obtain ⟨cs, head⟩ : ∃ cs, nestedChars n = '<' :: cs := by cases n <;> exact ⟨_, rfl⟩
  -- every element takes two of the steps that its seven characters allow
  have events_eq : events (nested n) =
      eventsFrom (2 * (n + 1) + (5 * n + 6)) (nestedChars n ++ []) := by
    have steps : 2 * (n + 1) + (5 * n + 6) = (nestedChars n).length + 1 := by
      rw [nestedChars_length]
      omega
    rw [steps, List.append_nil, events, nested, String.toList_ofList, head]
    rfl
  rw [Element.parse, Element.ofEvents, events_eq, foldlM_nested]
  rfl

theorem height_nested (n : Nat) : (nestedElement n).toJson.height = n := by
  induction n with
  | zero => rfl
  | succ n ih =>
    have name : (nestedElement n).name = "a" := by cases n <;> rfl
    have value : (nestedElement (n + 1)).toJson = .object [("a", (nestedElement n).toJson)] := by
      rw [nestedElement, Element.toJson, addChildren, name]
      rfl
    rw [value, Json.height, Json.membersHeight, Json.membersHeight, ih, Nat.max_zero]

/-- The value of an element in so many others nests once more than they do. -/
theorem toJson_nested (n : Nat) :
    ∃ j, toJson (nested n) = .ok j ∧ j.height = n + 1 := by
  refine ⟨.object [((nestedElement n).name, (nestedElement n).toJson)], ?_, ?_⟩
  · rw [toJson, parse_nested]
    rfl
  · rw [Json.height, Json.membersHeight, Json.membersHeight, height_nested, Nat.max_zero]

end Resilience.Xml
