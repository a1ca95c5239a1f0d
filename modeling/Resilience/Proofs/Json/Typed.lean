import Mathlib.Data.List.Forall2
import Resilience.Json.Typed
import Resilience.Proofs.Json.Written
/-! # Records in written values

A record in a text has the fields of its value, and so has the value when it is written again,
whether it is an object or an array.
-/
namespace Resilience.Json

mutual

/-- What a tree means does not depend on the levels allowed. -/
theorem value?_agree {d e : Nat} {i j : Json} : ∀ {t : Tree}, t.value? d = some i →
    t.value? e = some j → i = j
  | .null, hi, hj | .bool _, hi, hj | .numeral _, hi, hj | .string _, hi, hj =>
    Option.some.inj (hi.symm.trans hj)
  | .array items, hi, hj => by
    match d, e with
    | 0, _ => cases hi
    | _ + 1, 0 => cases hj
    | d + 1, e + 1 =>
      obtain ⟨is, foundi, rfl⟩ := Option.map_eq_some_iff.mp hi
      obtain ⟨js, foundj, rfl⟩ := Option.map_eq_some_iff.mp hj
      rw [itemValues?_agree foundi foundj]
  | .object members, hi, hj => by
    match d, e with
    | 0, _ => cases hi
    | _ + 1, 0 => cases hj
    | d + 1, e + 1 =>
      obtain ⟨is, foundi, rfl⟩ := Option.map_eq_some_iff.mp hi
      obtain ⟨js, foundj, rfl⟩ := Option.map_eq_some_iff.mp hj
      rw [memberValues?_agree foundi foundj]

theorem itemValues?_agree {d e : Nat} {is js : List Json} : ∀ {ts : List Tree},
    itemValues? d ts = some is → itemValues? e ts = some js → is = js
  | [], hi, hj => Option.some.inj (hi.symm.trans hj)
  | t :: ts, hi, hj => by
    obtain ⟨i, firsti, hi⟩ := Option.bind_eq_some_iff.mp hi
    obtain ⟨is, resti, hi⟩ := Option.bind_eq_some_iff.mp hi
    obtain ⟨j, firstj, hj⟩ := Option.bind_eq_some_iff.mp hj
    obtain ⟨js, restj, hj⟩ := Option.bind_eq_some_iff.mp hj
    cases hi
    cases hj
    rw [value?_agree firsti firstj, itemValues?_agree resti restj]

theorem memberValues?_agree {d e : Nat} {is js : List (String × Json)} :
    ∀ {ts : List (Option String × Tree)}, memberValues? d ts = some is →
      memberValues? e ts = some js → is = js
  | [], hi, hj => Option.some.inj (hi.symm.trans hj)
  | (key, t) :: ts, hi, hj => by
    obtain ⟨ki, keyi, hi⟩ := Option.bind_eq_some_iff.mp hi
    obtain ⟨i, firsti, hi⟩ := Option.bind_eq_some_iff.mp hi
    obtain ⟨is, resti, hi⟩ := Option.bind_eq_some_iff.mp hi
    obtain ⟨kj, keyj, hj⟩ := Option.bind_eq_some_iff.mp hj
    obtain ⟨j, firstj, hj⟩ := Option.bind_eq_some_iff.mp hj
    obtain ⟨js, restj, hj⟩ := Option.bind_eq_some_iff.mp hj
    cases hi
    cases hj
    cases keyi.symm.trans keyj
    rw [value?_agree firsti firstj, memberValues?_agree resti restj]

end

namespace Tree

/-- The tree has this value, if so many levels are allowed as it needs. -/
def Denotes (t : Tree) (j : Json) : Prop := ∃ d, t.value? d = some j

def Valued (d : Nat) : List (String × Tree) → List (String × Json) → Prop :=
  List.Forall₂ fun m p => m.1 = p.1 ∧ m.2.value? d = some p.2

theorem valued_of_memberValues? {d : Nat} : ∀ {ts : List (Option String × Tree)}
    {ps : List (String × Json)}, memberValues? d ts = some ps →
      ∃ ms, wholeMembers? ts = some ms ∧ Valued d ms ps
  | [], _, h => by
    cases h
    exact ⟨[], rfl, .nil⟩
  | (key, t) :: ts, _, h => by
    obtain ⟨k, rfl, h⟩ := Option.bind_eq_some_iff.mp h
    obtain ⟨j, first, h⟩ := Option.bind_eq_some_iff.mp h
    obtain ⟨ps, rest, h⟩ := Option.bind_eq_some_iff.mp h
    cases h
    obtain ⟨ms, whole, valued⟩ := valued_of_memberValues? rest
    exact ⟨(k, t) :: ms, by simp [wholeMembers?, whole], .cons ⟨rfl, first⟩ valued⟩

theorem mem_iff_of_single? {key : String} {ms : List (String × Tree)} {f : Option Tree}
    (found : single? key ms = some f) (t : Tree) : (key, t) ∈ ms ↔ f = some t := by
  have inside : (key, t) ∈ ms ↔ (key, t) ∈ ms.filter fun m => m.1 = key := by simp
  rw [inside]
  unfold single? at found
  split at found
  · next none =>
    cases found
    simp [none]
  · next m one =>
    have kept : m ∈ ms.filter fun m => m.1 = key := one ▸ List.mem_singleton_self m
    have named : key = m.1 := (of_decide_eq_true (List.mem_filter.mp kept).2).symm
    cases found
    rw [one, List.mem_singleton, Option.some.injEq]
    constructor
    · intro same
      exact congrArg Prod.snd same.symm
    · rintro rfl
      rw [named]
  · cases found

namespace Valued

variable {d : Nat} {ms : List (String × Tree)} {ps : List (String × Json)}

theorem mem_left (h : Valued d ms ps) {p : String × Json} (hp : p ∈ ps) :
    ∃ t, (p.1, t) ∈ ms ∧ t.value? d = some p.2 := by
  induction h with
  | nil => cases hp
  | @cons m q ms ps first _ ih =>
    rcases List.mem_cons.mp hp with rfl | hp
    · exact ⟨m.2, first.1 ▸ List.mem_cons_self, first.2⟩
    · obtain ⟨t, ht, value⟩ := ih hp
      exact ⟨t, List.mem_cons_of_mem _ ht, value⟩

theorem mem_right (h : Valued d ms ps) {m : String × Tree} (hm : m ∈ ms) :
    ∃ j, (m.1, j) ∈ ps := by
  induction h with
  | nil => cases hm
  | @cons n q ms ps first _ ih =>
    rcases List.mem_cons.mp hm with rfl | hm
    · exact ⟨q.2, first.1 ▸ List.mem_cons_self⟩
    · obtain ⟨j, hj⟩ := ih hm
      exact ⟨j, List.mem_cons_of_mem _ hj⟩

/-- The only member with a key has the value that is kept under it. -/
theorem single? (h : Valued d ms ps) {key : String} {f : Option Tree}
    (found : Tree.single? key ms = some f) :
    Option.Rel Denotes f (Dict.find? (Dict.ofList ps) key) := by
  cases kept : Dict.find? (Dict.ofList ps) key with
  | some j =>
    obtain ⟨t, ht, value⟩ := h.mem_left (Dict.mem_ofList (Dict.mem_of_find? kept))
    rw [(mem_iff_of_single? found t).mp ht]
    exact .some ⟨d, value⟩
  | none =>
    cases f with
    | none => exact .none
    | some t =>
      obtain ⟨j, hj⟩ := h.mem_right ((mem_iff_of_single? found t).mpr rfl)
      have there := Dict.find?_ofList_isSome hj
      rw [kept] at there
      cases there

end Valued

theorem wholeMembers?_memberTrees (ms : List (String × Json)) :
    wholeMembers? (memberTrees ms) = some (ms.map fun m => (m.1, m.2.tree)) := by
  induction ms with
  | nil => rfl
  | cons m ms ih => simp [memberTrees, wholeMembers?, ih]

theorem single?_trees {ms : Dict String Json} (h : Dict.Ascending ms) (key : String) :
    single? key (ms.map fun m => (m.1, m.2.tree)) = some ((Dict.find? ms key).map tree) := by
  induction ms with
  | nil => rfl
  | cons m ms ih =>
    obtain ⟨below, rest⟩ := List.pairwise_cons.mp h
    by_cases same : m.1 = key
    · have none : (ms.map fun m => (m.1, m.2.tree)).filter (fun m => m.1 = key) = [] := by
        rw [List.filter_eq_nil_iff]
        intro p hp
        obtain ⟨q, hq, rfl⟩ := List.mem_map.mp hp
        simpa [same] using (below q hq).ne'
      simp [single?, Dict.find?, same, none]
    · have other : key ≠ m.1 := fun h => same h.symm
      simpa [single?, Dict.find?, same, other] using ih rest

/-- An object that was written and read again holds what its values are read as. -/
theorem value?_object {ms : Dict String Json} {d : Nat} {j : Json} (h : Dict.Ascending ms)
    (value : (tree (.object ms)).value? (d + 1) = some j) : ∃ ns, j = .object ns ∧
      ∀ key i, Dict.find? ms key = some i →
        ∃ i', Dict.find? ns key = some i' ∧ i.tree.value? d = some i' := by
  obtain ⟨ps, values, rfl⟩ := Option.map_eq_some_iff.mp value
  obtain ⟨ts, whole, valued⟩ := valued_of_memberValues? values
  rw [wholeMembers?_memberTrees] at whole
  cases whole
  refine ⟨Dict.ofList ps, rfl, fun key i found => ?_⟩
  have inside : (key, i.tree) ∈ ms.map fun m => (m.1, m.2.tree) :=
    List.mem_map.mpr ⟨(key, i), Dict.mem_of_find? found, rfl⟩
  obtain ⟨k, hk⟩ := valued.mem_right inside
  obtain ⟨i', kept⟩ := Option.isSome_iff_exists.mp (Dict.find?_ofList_isSome hk)
  refine ⟨i', kept, ?_⟩
  obtain ⟨t, ht, again⟩ := valued.mem_left (Dict.mem_ofList (Dict.mem_of_find? kept))
  obtain ⟨m, hm, same⟩ := List.mem_map.mp ht
  cases same
  cases found.symm.trans (h.find?_eq_some hm)
  exact again

theorem fields?_object {ms : Dict String Json} (h : Dict.Ascending ms) (names : List String)
    (depth : Nat) : (tree (.object ms)).fields? names (depth + 1) =
      some (depth, names.map fun name => (Dict.find? ms name).map tree) := by
  have each : names.mapM (fun name => single? name (ms.map fun m => (m.1, m.2.tree))) =
      some (names.map fun name => (Dict.find? ms name).map tree) := by
    simp only [single?_trees h]
    exact List.mapM_pure
  simp [tree, fields?, wholeMembers?_memberTrees, each]

theorem itemTrees_eq (js : List Json) : itemTrees js = js.map tree := by
  induction js with
  | nil => rfl
  | cons j js ih => rw [itemTrees, ih, List.map_cons]

theorem fields?_array {js : List Json} {names : List String} (h : js.length ≤ names.length)
    (depth : Nat) : (tree (.array js)).fields? names (depth + 1) =
      some (depth, js.map (fun j => some j.tree) ++
        List.replicate (names.length - js.length) none) := by
  simp [tree, fields?, itemTrees_eq, h, Function.comp_def]

theorem itemValues?_forall {d : Nat} : ∀ {ts : List Tree} {js : List Json},
    itemValues? d ts = some js → List.Forall₂ (fun t j => t.value? d = some j) ts js
  | [], _, h => by
    cases h
    exact .nil
  | t :: ts, _, h => by
    obtain ⟨j, first, h⟩ := Option.bind_eq_some_iff.mp h
    obtain ⟨js, rest, h⟩ := Option.bind_eq_some_iff.mp h
    cases h
    exact .cons first (itemValues?_forall rest)

theorem forall₂_replicate {α β : Type} {R : α → β → Prop} {a : α} {b : β} (h : R a b) :
    ∀ n, List.Forall₂ R (List.replicate n a) (List.replicate n b)
  | 0 => .nil
  | n + 1 => .cons h (forall₂_replicate h n)

theorem Valued.singles {d : Nat} {ms : List (String × Tree)} {ps : List (String × Json)}
    (h : Valued d ms ps) {names : List String} {fs : List (Option Tree)}
    (found : names.mapM (fun name => Tree.single? name ms) = some fs) :
    List.Forall₂ (Option.Rel Denotes) fs
      (names.map fun name => Dict.find? (Dict.ofList ps) name) := by
  induction names generalizing fs with
  | nil =>
    cases found
    exact .nil
  | cons name names ih =>
    rw [List.mapM_cons] at found
    obtain ⟨f, first, found⟩ := Option.bind_eq_some_iff.mp found
    obtain ⟨fs, rest, found⟩ := Option.bind_eq_some_iff.mp found
    cases found
    exact .cons (h.single? first) (ih rest)

/-- The fields of a tree that has a value are those of the value. -/
theorem fields?_value {names : List String} {d e : Nat} {t : Tree} {j : Json}
    {fs : List (Option Tree)} (value : Denotes t j) (found : t.fields? names d = some (e, fs)) :
    d = e + 1 ∧ ∃ vs, j.fields? names = some vs ∧
      List.Forall₂ (Option.Rel Denotes) fs vs := by
  obtain ⟨D, value⟩ := value
  match t, d, D with
  | .null, _, _ | .bool _, _, _ | .numeral _, _, _ | .string _, _, _ => cases found
  | .array _, 0, _ | .object _, 0, _ => cases found
  | .array _, _ + 1, 0 | .object _, _ + 1, 0 => cases value
  | .array items, d + 1, D + 1 =>
    obtain ⟨js, values, rfl⟩ := Option.map_eq_some_iff.mp value
    have each := itemValues?_forall values
    unfold fields? at found
    dsimp only at found
    split at found
    · next short =>
      cases found
      refine ⟨rfl, _, if_pos (each.length_eq ▸ short), ?_⟩
      rw [each.length_eq]
      refine List.rel_append ?_ (forall₂_replicate .none _)
      rw [List.forall₂_map_left_iff, List.forall₂_map_right_iff]
      exact each.imp fun t j value => .some ⟨D, value⟩
    · cases found
  | .object members, d + 1, D + 1 =>
    obtain ⟨ps, values, rfl⟩ := Option.map_eq_some_iff.mp value
    obtain ⟨ms, whole, valued⟩ := valued_of_memberValues? values
    unfold fields? at found
    dsimp only at found
    rw [whole, Option.bind_eq_bind, Option.bind_some] at found
    obtain ⟨gs, singles, rest⟩ := Option.bind_eq_some_iff.mp found
    cases rest
    exact ⟨rfl, _, rfl, valued.singles singles⟩

theorem fields?_tree {names : List String} {j : Json} {vs : List (Option Json)} (proper : j.Proper)
    (found : j.fields? names = some vs) (depth : Nat) :
    j.tree.fields? names (depth + 1) = some (depth, vs.map (Option.map tree)) := by
  cases j with
  | null | bool | number | string => cases found
  | array js =>
    rw [Json.fields?] at found
    split at found
    · next short =>
      cases found
      rw [fields?_array short]
      simp
    · cases found
  | object ms =>
    cases found
    rw [fields?_object proper.1]
    simp

theorem eq_null_of_value? {t : Tree} {d : Nat} (h : t.value? d = some .null) : t = .null := by
  match t, d with
  | .null, _ => rfl
  | .bool _, _ | .array _, 0 | .object _, 0 => cases h
  | .numeral _, _ | .string _, _ | .array _, _ + 1 | .object _, _ + 1 =>
    obtain ⟨_, _, same⟩ := Option.map_eq_some_iff.mp h
    cases same

theorem Denotes.proper {t : Tree} {j : Json} (value : Denotes t j) : j.Proper :=
  (value?_spec value.choose_spec).1

section Lists

variable {α β γ : Type} {read : Reading α}

theorem mapM_isSome {f : β → Option γ} {bs : List β} :
    (bs.mapM f).isSome ↔ ∀ b ∈ bs, (f b).isSome := by
  induction bs with
  | nil => simp
  | cons b bs ih =>
    rw [List.mapM_cons, List.forall_mem_cons, ← ih]
    cases f b <;> cases bs.mapM f <;> simp

theorem list?_isSome {d : Nat} {t : Tree} : (list? read d t).isSome ↔
    ∃ e items, d = e + 1 ∧ t = .array items ∧ ∀ u ∈ items, (read e u).isSome := by
  constructor
  · intro found
    unfold list? at found
    split at found
    · exact ⟨_, _, rfl, rfl, mapM_isSome.mp found⟩
    · cases found
  · rintro ⟨e, items, rfl, rfl, each⟩
    exact mapM_isSome.mpr each

end Lists

end Tree
end Resilience.Json
