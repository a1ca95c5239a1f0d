import Resilience.Proofs.Json.Proper
import Resilience.Xml.Record
/-! # The values of elements

The value of an element is as values are read. Under a name that no attribute and no text has, it
holds what the children of that name become: one value alone, several in an array.
-/
namespace Resilience.Xml

open Json (Inherited Proper)

/-- A name that is none of an attribute or of text. -/
def Plain (key : String) : Prop := key ≠ "#content" ∧ ∀ a, key ≠ "-" ++ a

theorem plain_iff {key : String} :
    Plain key ↔ key ≠ "#content" ∧ key.toList.head? ≠ some '-' := by
  refine and_congr_right fun _ => ?_
  constructor
  · intro plain dash
    obtain ⟨cs, chars⟩ := List.head?_eq_some_iff.mp dash
    refine plain (String.ofList cs) (String.toList_inj.mp ?_)
    rw [String.toList_append, chars]
    exact congrArg ('-' :: ·) String.toList_ofList.symm
  · rintro other a rfl
    rw [String.toList_append] at other
    exact other rfl

instance (key : String) : Decidable (Plain key) := decidable_of_iff _ plain_iff.symm

def gathered : List Json → Option Json
  | [] => none
  | [j] => some j
  | js => some (.array js)

def IsArray (j : Json) : Prop := ∃ items, j = .array items

namespace Element

def named (e : Element) (name : String) : List Element := e.children.filter fun c => c.name = name

/-- Nothing but text. -/
def Bare (e : Element) : Prop := e.attributes = [] ∧ e.children = []

instance (e : Element) : Decidable e.Bare :=
  decidable_of_iff (e.attributes.isEmpty ∧ e.children.isEmpty) (by simp [Bare])

theorem toJson_bare {e : Element} (h : e.Bare) : e.toJson = .string (Text.trim e.text) := by
  obtain ⟨name, attributes, children, text⟩ := e
  obtain ⟨rfl, rfl⟩ : attributes = [] ∧ children = [] := h
  simp [toJson, Element.text]

def members (e : Element) : Dict String Json :=
  let ms := addChildren (attributeMembers e.attributes) e.children
  if Text.trim e.text = "" then ms else Dict.insert ms "#content" (.string (Text.trim e.text))

theorem toJson_members {e : Element} (h : ¬e.Bare) : e.toJson = .object e.members := by
  obtain ⟨name, attributes, children, text⟩ := e
  have other : (attributes.isEmpty && children.isEmpty) = false := by
    rw [Bool.eq_false_iff]
    intro both
    simp only [Bool.and_eq_true, List.isEmpty_iff] at both
    exact h both
  simp only [toJson, members, other, Bool.false_eq_true, if_false, Element.attributes,
    Element.children, Element.text]
  rfl

theorem toJson_not_array (e : Element) : ¬IsArray e.toJson := by
  rintro ⟨items, same⟩
  by_cases bare : e.Bare
  · rw [toJson_bare bare] at same
    cases same
  · rw [toJson_members bare] at same
    cases same

end Element

section Members

variable {ms : Dict String Json} {key : String} {js : List Json} {value : Json}

theorem gathered_append (single : ∀ j ∈ js, ¬IsArray j) :
    gathered (js ++ [value]) = some (match gathered js with
      | some (.array items) => .array (items ++ [value])
      | some first => .array [first, value]
      | none => value) := by
  match js, single with
  | [], _ => rfl
  | [.null], _ | [.bool _], _ | [.number _], _ | [.string _], _ | [.object _], _ => rfl
  | [.array items], single => exact absurd ⟨items, rfl⟩ (single _ List.mem_cons_self)
  | _ :: _ :: _, _ => rfl

theorem find?_addMember (single : ∀ j ∈ js, ¬IsArray j) (h : Dict.find? ms key = gathered js) :
    Dict.find? (addMember ms key value) key = gathered (js ++ [value]) := by
  rw [gathered_append single, ← h]
  unfold addMember
  cases Dict.find? ms key with
  | none => exact Dict.find?_insert_self _ _ _
  | some first => cases first <;> exact Dict.find?_insert_self _ _ _

theorem find?_addMember_of_ne {other : String} (h : key ≠ other) :
    Dict.find? (addMember ms other value) key = Dict.find? ms key := by
  unfold addMember
  split <;> exact Dict.find?_insert_of_ne _ _ h

theorem find?_addChildren (single : ∀ j ∈ js, ¬IsArray j) (h : Dict.find? ms key = gathered js)
    (es : List Element) : Dict.find? (addChildren ms es) key =
      gathered (js ++ (es.filter fun e => e.name = key).map Element.toJson) := by
  induction es generalizing ms js with
  | nil => simpa [addChildren] using h
  | cons e es ih =>
    rw [addChildren]
    by_cases same : e.name = key
    · subst same
      have longer : ∀ j ∈ js ++ [e.toJson], ¬IsArray j := by
        intro j hj
        rcases List.mem_append.mp hj with hj | hj
        · exact single j hj
        · rw [List.mem_singleton.mp hj]
          exact e.toJson_not_array
      rw [ih longer (find?_addMember single h)]
      simp
    · rw [ih single ((find?_addMember_of_ne fun h => same h.symm).trans h)]
      simp [same]

theorem find?_attributeMembers (h : Plain key) (attributes : Attributes) :
    Dict.find? (attributeMembers attributes) key = none := by
  refine Dict.Ascending.find?_eq_none fun p hp => ?_
  obtain ⟨a, -, rfl⟩ := List.mem_map.mp (Dict.mem_ofList hp)
  exact (h.2 a.1).symm

/-- Under a plain name stand the children of that name. -/
theorem Element.find?_members (h : Plain key) (e : Element) :
    Dict.find? e.members key = gathered ((e.named key).map Element.toJson) := by
  have children := find?_addChildren (by simp : ∀ j ∈ ([] : List Json), ¬IsArray j)
    (find?_attributeMembers h e.attributes) e.children
  unfold Element.members
  dsimp only
  split
  · exact children
  · rw [Dict.find?_insert_of_ne _ _ h.1]
    exact children

variable {P : Json → Prop}

theorem addMember_inherited (hP : Inherited P) (h : P (.object ms)) (hv : P value) (key : String) :
    P (.object (addMember ms key value)) := by
  unfold addMember
  split
  · next items found =>
    refine hP.insert h (hP.array fun j hj => ?_) key
    rcases List.mem_append.mp hj with hj | hj
    · exact hP.items (hP.find? h found) j hj
    · rw [List.mem_singleton.mp hj]
      exact hv
  · next first _ found =>
    refine hP.insert h (hP.array fun j hj => ?_) key
    rcases List.mem_pair.mp hj with rfl | rfl
    · exact hP.find? h found
    · exact hv
  · exact hP.insert h hv key

theorem attributeMembers_inherited (hP : Inherited P) (attributes : Attributes) :
    P (.object (attributeMembers attributes)) := by
  refine hP.ofList fun p hp => ?_
  obtain ⟨a, -, rfl⟩ := List.mem_map.mp hp
  exact hP.string a.2

end Members

mutual

/-- The value of an element has what texts have and arrays and objects inherit. -/
theorem Element.toJson_inherited {P : Json → Prop} (hP : Inherited P) :
    ∀ e : Element, P e.toJson
  | .mk _ attributes children text => by
    have ms := addChildren_inherited hP children (attributeMembers_inherited hP attributes)
    rw [Element.toJson]
    dsimp only
    split
    · exact hP.string _
    · split
      · exact ms
      · exact hP.insert ms (hP.string _) _

theorem addChildren_inherited {P : Json → Prop} (hP : Inherited P) :
    ∀ (es : List Element) {ms : Dict String Json}, P (.object ms) →
      P (.object (addChildren ms es))
  | [], _, h => h
  | e :: es, _, h =>
    addChildren_inherited hP es (addMember_inherited hP h (e.toJson_inherited hP) e.name)

end

theorem Element.toJson_proper (e : Element) : e.toJson.Proper :=
  e.toJson_inherited Proper.inherited

theorem toJson_inherited {P : Json → Prop} (hP : Inherited P) {s : String} {j : Json}
    (h : toJson s = .ok j) : P j := by
  cases parsed : Element.parse s with
  | error e =>
    rw [toJson, parsed] at h
    cases h
  | ok e =>
    rw [toJson, parsed] at h
    cases h
    exact hP.insert hP.empty (e.toJson_inherited hP) e.name

theorem toJson_proper {s : String} {j : Json} (h : toJson s = .ok j) : j.Proper :=
  toJson_inherited Proper.inherited h

end Resilience.Xml
