import Mathlib
import Resilience.Proofs.Xml.Attributes
import Resilience.Proofs.Xml.Record
/-! # What the value of an element keeps

Two elements have the same value exactly if they are alike: nothing but the order of attributes,
the places of siblings of different names among each other, and the blanks around a text is lost.
Where a text stands between the children is no part of an element.
-/
namespace Resilience.Xml

namespace Element

/-! ## Elements that are alike -/

/-- Siblings of different names have changed places. -/
inductive Rearranged : List Element → List Element → Prop
  | refl (es : List Element) : Rearranged es es
  | cons (e : Element) {es fs : List Element} (h : Rearranged es fs) :
      Rearranged (e :: es) (e :: fs)
  | swap {e f : Element} (es : List Element) (other : e.name ≠ f.name) :
      Rearranged (e :: f :: es) (f :: e :: es)
  | trans {es fs gs : List Element} (h : Rearranged es fs) (h' : Rearranged fs gs) :
      Rearranged es gs

/-- The elements are the same up to the order of attributes, the places of siblings of different
names, and the blanks around texts. -/
inductive Alike : Element → Element → Prop
  | mk {e f : Element} {moved : List Element} (name : e.name = f.name)
      (attributes : e.attributes.Perm f.attributes) (order : Rearranged e.children moved)
      (children : List.Forall₂ Alike moved f.children)
      (text : Text.trim e.text = Text.trim f.text) : Alike e f

section Rearranging

variable {es fs : List Element}

theorem Rearranged.filter_eq (h : Rearranged es fs) (name : String) :
    (es.filter fun e => e.name = name) = fs.filter fun e => e.name = name := by
  induction h with
  | refl => rfl
  | cons e _ ih => rw [List.filter_cons, List.filter_cons, ih]
  | @swap e f es other =>
    by_cases first : e.name = name
    · have second : f.name ≠ name := fun h => other (first.trans h.symm)
      simp [first, second]
    · simp [List.filter_cons, first]
  | trans _ _ ih ih' => exact ih.trans ih'

theorem Rearranged.passed {e : Element} (before : ∀ b ∈ es, b.name ≠ e.name) (rest : List Element) :
    Rearranged (es ++ e :: rest) (e :: es ++ rest) := by
  induction es with
  | nil => exact .refl _
  | cons b es ih =>
    obtain ⟨other, before⟩ := List.forall_mem_cons.mp before
    exact (Rearranged.cons b (ih before)).trans (.swap _ other)

variable {R : Element → Element → Prop}

end Rearranging

end Element

/-! ## What stands under each key -/

section Keys

variable {ms : Dict String Json} {key : String} {js js' : List Json}

theorem find?_addChildren_of_notMem {es : List Element} (h : ∀ e ∈ es, e.name ≠ key) :
    Dict.find? (addChildren ms es) key = Dict.find? ms key := by
  induction es generalizing ms with
  | nil => rw [addChildren]
  | cons e es ih =>
    obtain ⟨other, rest⟩ := List.forall_mem_cons.mp h
    rw [addChildren, ih rest, find?_addMember_of_ne (Ne.symm other)]

theorem dash_append_inj {a b : String} (h : "-" ++ a = "-" ++ b) : a = b := by
  have chars := congrArg String.toList h
  simp only [String.toList_append, List.append_cancel_left_eq] at chars
  exact String.toList_inj.mp chars

end Keys

theorem find?_attributeMembers_iff {attributes : Attributes} (h : Keyed attributes) {a : String}
    {j : Json} : Dict.find? (attributeMembers attributes) ("-" ++ a) = some j ↔
      ∃ v, (a, v) ∈ attributes ∧ j = .string v := by
  have keys : ((attributes.map fun a => ("-" ++ a.1, Json.string a.2)).map Prod.fst).Nodup := by
    rw [List.map_map]
    have distinct := h.map (f := fun a => "-" ++ a) fun a b => dash_append_inj
    rwa [List.map_map] at distinct
  rw [attributeMembers, Dict.find?_ofList_iff keys, List.mem_map]
  constructor
  · rintro ⟨⟨a', v⟩, mem, same⟩
    obtain ⟨key, value⟩ := Prod.mk.inj same
    obtain rfl := dash_append_inj key
    exact ⟨v, mem, value.symm⟩
  · rintro ⟨v, mem, rfl⟩
    exact ⟨(a, v), mem, rfl⟩

namespace Element

/-- No element of the tree has a name that attributes or text are kept under. -/
def PlainNames (e : Element) : Prop := ∀ x, e.Has x → Plain x.name

theorem PlainNames.mk {e : Element} (own : Plain e.name) (children : ∀ c ∈ e.children, c.PlainNames) :
    e.PlainNames := by
  rintro x (_ | ⟨h, below⟩)
  · exact own
  · exact children _ h x below

theorem plainNames_mk {name : String} {attributes : Attributes} {children : List Element}
    {text : String} : (Element.mk name attributes children text).PlainNames ↔
      Plain name ∧ ∀ c ∈ children, c.PlainNames :=
  ⟨fun h => ⟨h _ (.self _), fun _ hc x below => h x (.child hc below)⟩, fun h => .mk h.1 h.2⟩

theorem PlainNames.child {e c : Element} (h : e.PlainNames) (hc : c ∈ e.children) : c.PlainNames :=
  fun x below => h x (.child hc below)

theorem PlainNames.below {e x : Element} (h : e.PlainNames) (inside : e.Has x) : x.PlainNames := by
  induction inside with
  | self => exact h
  | child hc _ ih => exact ih (h.child hc)

theorem PlainNames.children {e : Element} (h : e.PlainNames) : ∀ c ∈ e.children, Plain c.name :=
  fun c hc => h.child hc c (.self c)

section Values

variable {e f : Element}

theorem find?_members_content (plain : ∀ c ∈ e.children, Plain c.name) :
    Dict.find? e.members "#content" =
      if Text.trim e.text = "" then none else some (.string (Text.trim e.text)) := by
  have unnamed : Dict.find? (addChildren (attributeMembers e.attributes) e.children) "#content" =
      none := by
    rw [find?_addChildren_of_notMem fun c hc => (plain c hc).1]
    refine Dict.Ascending.find?_eq_none fun p hp => ?_
    obtain ⟨a, -, rfl⟩ := List.mem_map.mp (Dict.mem_ofList hp)
    intro same
    simpa using congrArg String.toList same
  unfold members
  dsimp only
  split
  · exact unnamed
  · exact Dict.find?_insert_self _ _ _

theorem find?_members_attribute (plain : ∀ c ∈ e.children, Plain c.name) (a : String) :
    Dict.find? e.members ("-" ++ a) = Dict.find? (attributeMembers e.attributes) ("-" ++ a) := by
  have named : Dict.find? (addChildren (attributeMembers e.attributes) e.children) ("-" ++ a) =
      Dict.find? (attributeMembers e.attributes) ("-" ++ a) :=
    find?_addChildren_of_notMem fun c hc => (plain c hc).2 a
  have other : "-" ++ a ≠ "#content" := fun same => by simpa using congrArg String.toList same
  unfold members
  dsimp only
  split
  · exact named
  · rw [Dict.find?_insert_of_ne _ _ other]
    exact named

theorem find?_members_attribute_iff (plain : ∀ c ∈ e.children, Plain c.name)
    (keyed : Xml.Keyed e.attributes) {a v : String} :
    Dict.find? e.members ("-" ++ a) = some (.string v) ↔ (a, v) ∈ e.attributes := by
  rw [find?_members_attribute plain, find?_attributeMembers_iff keyed]
  constructor
  · rintro ⟨v, mem, ⟨⟩⟩
    exact mem
  · exact fun mem => ⟨v, mem, rfl⟩

theorem members_ascending (h : ¬e.Bare) : Dict.Ascending e.members := by
  have proper := e.toJson_proper
  rw [toJson_members h] at proper
  exact proper.1

end Values

/-- What holds of an element if it holds of its children holds of every element. -/
theorem induct {P : Element → Prop} (step : ∀ e, (∀ c ∈ e.children, P c) → P e) (e : Element) :
    P e := by
  obtain ⟨name, attributes, children, text⟩ := e
  refine step _ fun c hc => ?_
  have : sizeOf c < sizeOf children := List.sizeOf_lt_of_mem hc
  exact induct step c
termination_by sizeOf e
decreasing_by simp_wf; omega

/-- The value of an element holds every attribute, the children of every name in their order, one
alone or several in an array, and every text that is not blank. -/
structure Kept (e : Element) : Prop where
  attributes : ∀ a ∈ e.attributes, e.toJson.member? ("-" ++ a.1) = some (.string a.2)
  children : ∀ c ∈ e.children, e.toJson.member? c.name = gathered ((e.named c.name).map toJson)
  text : Text.trim e.text ≠ "" → e.toJson = .string (Text.trim e.text) ∨
    e.toJson.member? "#content" = some (.string (Text.trim e.text))

theorem kept {e : Element} (plain : ∀ c ∈ e.children, Plain c.name)
    (keyed : Xml.Keyed e.attributes) : e.Kept := by
  by_cases bare : e.Bare
  · have value := toJson_bare bare
    obtain ⟨noAttributes, noChildren⟩ := bare
    exact ⟨by simp [noAttributes], by simp [noChildren], fun _ => .inl value⟩
  · constructor
    · intro a mem
      rw [toJson_members bare, Json.member?_object, find?_members_attribute_iff plain keyed]
      exact mem
    · intro c hc
      rw [toJson_members bare, Json.member?_object, find?_members (plain c hc)]
    · intro shown
      rw [toJson_members bare, Json.member?_object, find?_members_content plain, if_neg shown]
      exact .inr rfl

end Element

section Sketches

end Sketches

end Resilience.Xml
