import Resilience.Proofs.Xml.Alike
import Resilience.Proofs.Xml.Nested
/-! # How deep values of elements nest

The value of an element nests less than twice as deep as the element: an element makes one object,
and an array around it if it has siblings of its name. Elements of two children each come close to
that.
-/
namespace Resilience.Xml

mutual

/-- How many elements lie in one another, this one among them. -/
def Element.depth : Element → Nat
  | .mk _ _ children _ => childrenDepth children + 1

def childrenDepth : List Element → Nat
  | [] => 0
  | e :: es => max e.depth (childrenDepth es)

end

theorem childrenDepth_le {es : List Element} {d : Nat} :
    childrenDepth es ≤ d ↔ ∀ e ∈ es, e.depth ≤ d := by
  induction es with
  | nil => simp [childrenDepth]
  | cons e es ih => rw [childrenDepth, max_le_iff, ih, List.forall_mem_cons]

namespace Element

theorem depth_eq (e : Element) : e.depth = childrenDepth e.children + 1 := by
  obtain ⟨name, attributes, children, text⟩ := e
  rw [depth, Element.children]

theorem depth_lt {e c : Element} (h : c ∈ e.children) : c.depth < e.depth := by
  rw [e.depth_eq]
  exact Nat.lt_succ_of_le (childrenDepth_le.mp le_rfl c h)

end Element

theorem height_gathered {js : List Json} {j : Json} {b : Nat} (h : gathered js = some j)
    (low : ∀ v ∈ js, v.height < b) : j.height ≤ b := by
  match js, h with
  | [_], rfl => exact (low _ List.mem_cons_self).le
  | _ :: _ :: _, rfl =>
    obtain ⟨b, rfl⟩ : ∃ c, b = c + 1 := ⟨b - 1, by have := low _ List.mem_cons_self; omega⟩
    rw [Json.height, Nat.succ_le_succ_iff]
    exact Json.itemsHeight_le.mpr fun v hv => Nat.le_of_lt_succ (low v hv)

namespace Element

variable {e : Element}

theorem height_members {b : Nat} (bare : ¬e.Bare) (plain : ∀ c ∈ e.children, Plain c.name)
    (low : ∀ c ∈ e.children, c.toJson.height < b) : Json.membersHeight e.members ≤ b := by
  refine Json.membersHeight_le.mpr fun m hm => ?_
  have found := (members_ascending bare).find?_eq_some hm
  by_cases shown : Plain m.1
  · rw [find?_members shown] at found
    refine height_gathered found fun v hv => ?_
    obtain ⟨c, hc, rfl⟩ := List.mem_map.mp hv
    exact low c (List.mem_filter.mp hc).1
  -- under any other key stands a text
  · obtain ⟨s, text⟩ : ∃ s, m.2 = .string s := by
      rcases not_and_or.mp shown with content | dashed
      · rw [not_not.mp content, find?_members_content plain] at found
        split at found
        · cases found
        · exact ⟨_, (Option.some.inj found).symm⟩
      · obtain ⟨a, own⟩ := not_forall.mp dashed
        rw [not_not.mp own, find?_members_attribute plain] at found
        obtain ⟨p, -, same⟩ := List.mem_map.mp (Dict.mem_ofList (Dict.mem_of_find? found))
        exact ⟨p.2, (Prod.mk.inj same).2.symm⟩
    rw [text]
    exact Nat.zero_le b

/-- The value of an element nests less than twice as deep as the element. -/
theorem height_toJson_lt (plain : e.PlainNames) : e.toJson.height < 2 * e.depth := by
  induction e using induct with | step e ih => ?_
  rw [depth_eq]
  by_cases bare : e.Bare
  · rw [toJson_bare bare, Json.height]
    omega
  · rw [toJson_members bare, Json.height]
    -- one level for the object, and one for an array of children of one name
    have low : ∀ c ∈ e.children, c.toJson.height < 2 * childrenDepth e.children := by
      intro c hc
      have inner := childrenDepth_le.mp le_rfl c hc
      have below := ih c hc (plain.child hc)
      omega
    have := height_members bare plain.children low
    omega

end Element

/-! ## Elements of two children each -/

def doubledChars : Nat → List Char
  | 0 => ['<', 'a', '/', '>']
  | n + 1 => '<' :: 'a' :: '>' :: '<' :: 'a' :: '/' :: '>' :: doubledChars n ++ ['<', '/', 'a', '>']

def doubledElement : Nat → Element
  | 0 => .mk "a" [] [] ""
  | n + 1 => .mk "a" [] [.mk "a" [] [] "", doubledElement n] ""

theorem eventsFrom_leaf (fuel : Nat) (cs : List Char) :
    eventsFrom (fuel + 1) ('<' :: 'a' :: '/' :: '>' :: cs) = .leaf "a" [] :: eventsFrom fuel cs := by
  have tag : openEvent ['a', '/'] = .leaf "a" [] := by decide +kernel
  simp [eventsFrom, markup?, tagBody?, tag]

theorem foldlM_doubled (n fuel : Nat) (rest : List Char) (t : TreeState) :
    (eventsFrom (3 * n + 1 + fuel) (doubledChars n ++ rest)).foldlM TreeState.step t =
      (t.attach (doubledElement n)).bind fun t =>
        (eventsFrom fuel rest).foldlM TreeState.step t := by
  induction n generalizing fuel rest t with
  | zero =>
    rw [show 3 * 0 + 1 + fuel = fuel + 1 by omega, doubledChars]
    simp only [List.cons_append, List.nil_append, eventsFrom_leaf]
    rfl
  | succ n ih =>
    rw [show 3 * (n + 1) + 1 + fuel = 3 * n + 1 + (fuel + 1) + 1 + 1 by omega, doubledChars]
    simp only [List.cons_append, List.append_assoc, List.nil_append, eventsFrom_open,
      eventsFrom_leaf]
    rw [List.foldlM_cons]
    change (List.foldlM _ _ _) = _
    rw [List.foldlM_cons]
    change (List.foldlM _ _ _) = _
    rw [ih, eventsFrom_close]
    rfl

theorem doubledChars_length (n : Nat) : (doubledChars n).length = 11 * n + 4 := by
  induction n with
  | zero => rfl
  | succ n ih =>
    simp [doubledChars, ih]
    omega

theorem name_doubled (n : Nat) : (doubledElement n).name = "a" := by cases n <;> rfl

theorem toJson_doubled (n : Nat) : (doubledElement (n + 1)).toJson =
    .object [("a", .array [.string "", (doubledElement n).toJson])] := by
  rw [doubledElement, Element.toJson, addChildren, addChildren, name_doubled]
  rfl

theorem height_doubled (n : Nat) : (doubledElement n).toJson.height = 2 * n := by
  induction n with
  | zero => rfl
  | succ n ih =>
    rw [toJson_doubled]
    simp only [Json.height, Json.membersHeight, Json.itemsHeight, ih]
    omega

theorem depth_doubled (n : Nat) : (doubledElement n).depth = n + 1 := by
  induction n with
  | zero => rfl
  | succ n ih =>
    simp only [doubledElement, Element.depth, childrenDepth, ih]
    omega

end Resilience.Xml
