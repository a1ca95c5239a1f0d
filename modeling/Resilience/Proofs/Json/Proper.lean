import Resilience.Json.Record
import Resilience.Proofs.Dict
import Resilience.Proofs.Json.Range
/-! # Values as they are read

A value that was read has ascending keys, numbers within range, and nests no deeper than it was
allowed to.
-/
namespace Resilience.Json

mutual

/-- A value as it is read. -/
def Proper : Json → Prop
  | .null | .bool _ | .string _ => True
  | .number n => n.Proper
  | .array items => ItemsProper items
  | .object members => Dict.Ascending members ∧ MembersProper members

def ItemsProper : List Json → Prop
  | [] => True
  | j :: js => j.Proper ∧ ItemsProper js

def MembersProper : List (String × Json) → Prop
  | [] => True
  | (_, j) :: ms => j.Proper ∧ MembersProper ms

end

mutual

def height : Json → Nat
  | .null | .bool _ | .number _ | .string _ => 0
  | .array items => itemsHeight items + 1
  | .object members => membersHeight members + 1

def itemsHeight : List Json → Nat
  | [] => 0
  | j :: js => max j.height (itemsHeight js)

def membersHeight : List (String × Json) → Nat
  | [] => 0
  | (_, j) :: ms => max j.height (membersHeight ms)

end

theorem itemsProper_iff {js : List Json} : ItemsProper js ↔ ∀ j ∈ js, j.Proper := by
  induction js with
  | nil => simp [ItemsProper]
  | cons j js ih => simp [ItemsProper, ih]

theorem membersProper_iff {ms : List (String × Json)} :
    MembersProper ms ↔ ∀ m ∈ ms, m.2.Proper := by
  induction ms with
  | nil => simp [MembersProper]
  | cons m ms ih => simp [MembersProper, ih]

theorem itemsHeight_le {js : List Json} {d : Nat} :
    itemsHeight js ≤ d ↔ ∀ j ∈ js, j.height ≤ d := by
  induction js with
  | nil => simp [itemsHeight]
  | cons j js ih => simp [itemsHeight, ih]

theorem membersHeight_le {ms : List (String × Json)} {d : Nat} :
    membersHeight ms ≤ d ↔ ∀ m ∈ ms, m.2.height ≤ d := by
  induction ms with
  | nil => simp [membersHeight]
  | cons m ms ih => simp [membersHeight, ih]

namespace Proper

variable {ms : Dict String Json} {key : String} {j : Json}

theorem find? (h : Proper (.object ms)) (found : Dict.find? ms key = some j) : j.Proper :=
  membersProper_iff.mp h.2 _ (Dict.mem_of_find? found)

theorem insert (h : Proper (.object ms)) (hj : j.Proper) (key : String) :
    Proper (.object (Dict.insert ms key j)) := by
  refine ⟨h.1.insert key j, membersProper_iff.mpr fun m hm => ?_⟩
  rcases Dict.mem_insert hm with rfl | hm
  · exact hj
  · exact membersProper_iff.mp h.2 m hm

theorem string (s : String) : Proper (.string s) := trivial

theorem array {js : List Json} (h : ∀ j ∈ js, j.Proper) : Proper (.array js) :=
  itemsProper_iff.mpr h

theorem items {js : List Json} (h : Proper (.array js)) : ∀ j ∈ js, j.Proper :=
  itemsProper_iff.mp h

theorem empty : Proper (.object []) := ⟨.nil, trivial⟩

theorem ofList {ps : List (String × Json)} (h : ∀ p ∈ ps, p.2.Proper) :
    Proper (.object (Dict.ofList ps)) :=
  ⟨Dict.ofList_ascending ps, membersProper_iff.mpr fun m hm => h m (Dict.mem_ofList hm)⟩

end Proper

/-- A property that texts have, and arrays and objects if their parts have it. -/
structure Inherited (P : Json → Prop) : Prop where
  string (s : String) : P (.string s)
  array {js : List Json} (h : ∀ j ∈ js, P j) : P (.array js)
  items {js : List Json} (h : P (.array js)) : ∀ j ∈ js, P j
  empty : P (.object [])
  find? {ms : Dict String Json} {key : String} {j : Json} (h : P (.object ms))
    (found : Dict.find? ms key = some j) : P j
  insert {ms : Dict String Json} {j : Json} (h : P (.object ms)) (hj : P j) (key : String) :
    P (.object (Dict.insert ms key j))

theorem Proper.inherited : Inherited Proper where
  string := string
  array := array
  items := items
  empty := empty
  find? := find?
  insert := insert

/-- The fields of a value have what the value has. -/
theorem Inherited.fields? {P : Json → Prop} (hP : Inherited P) {j : Json} {names : List String}
    {vs : List (Option Json)} (h : P j) (found : j.fields? names = some vs) :
    ∀ f ∈ vs, ∀ v, f = some v → P v := by
  cases j with
  | null | bool | number | string => cases found
  | array js =>
    rw [Json.fields?] at found
    split at found
    · cases found
      rintro f hf v rfl
      rcases List.mem_append.mp hf with hf | hf
      · obtain ⟨i, hi, same⟩ := List.mem_map.mp hf
        cases same
        exact hP.items h v hi
      · cases List.eq_of_mem_replicate hf
    · cases found
  | object ms =>
    cases found
    rintro f hf v rfl
    obtain ⟨name, -, found⟩ := List.mem_map.mp hf
    exact hP.find? h found

theorem Inherited.ofList {P : Json → Prop} (hP : Inherited P) {ps : List (String × Json)}
    (h : ∀ p ∈ ps, P p.2) : P (.object (Dict.ofList ps)) := by
  have step : ∀ (ps : List (String × Json)) (ms : Dict String Json), (∀ p ∈ ps, P p.2) →
      P (.object ms) → P (.object (ps.foldl (fun d p => Dict.insert d p.1 p.2) ms)) := by
    intro ps
    induction ps with
    | nil => exact fun _ _ h => h
    | cons p ps ih =>
      intro ms each h
      rw [List.forall_mem_cons] at each
      exact ih _ each.2 (hP.insert h each.1 p.1)
  exact step ps [] h hP.empty

mutual

/-- What is read is proper, and no deeper than allowed. -/
theorem value?_spec {d : Nat} {j : Json} : ∀ {t : Tree}, t.value? d = some j →
    j.Proper ∧ j.height ≤ d
  | .null, h | .bool _, h => by
    cases h
    exact ⟨trivial, Nat.zero_le _⟩
  | .numeral n, h => by
    obtain ⟨v, found, rfl⟩ := Option.map_eq_some_iff.mp h
    exact ⟨Numeral.number?_proper found, Nat.zero_le _⟩
  | .string s, h => by
    obtain ⟨v, -, rfl⟩ := Option.map_eq_some_iff.mp h
    exact ⟨trivial, Nat.zero_le _⟩
  | .array items, h => by
    cases d with
    | zero => cases h
    | succ d =>
      obtain ⟨js, found, rfl⟩ := Option.map_eq_some_iff.mp h
      have all := itemValues?_spec found
      exact ⟨itemsProper_iff.mpr fun j hj => (all j hj).1,
        Nat.succ_le_succ (itemsHeight_le.mpr fun j hj => (all j hj).2)⟩
  | .object members, h => by
    cases d with
    | zero => cases h
    | succ d =>
      obtain ⟨ms, found, rfl⟩ := Option.map_eq_some_iff.mp h
      have all := memberValues?_spec found
      exact ⟨Proper.ofList fun m hm => (all m hm).1,
        Nat.succ_le_succ (membersHeight_le.mpr fun m hm => (all m (Dict.mem_ofList hm)).2)⟩

theorem itemValues?_spec {d : Nat} {js : List Json} : ∀ {ts : List Tree},
    itemValues? d ts = some js → ∀ j ∈ js, j.Proper ∧ j.height ≤ d
  | [], h => by
    cases h
    simp
  | t :: ts, h => by
    obtain ⟨j, first, h⟩ := Option.bind_eq_some_iff.mp h
    obtain ⟨js, rest, h⟩ := Option.bind_eq_some_iff.mp h
    cases h
    intro i hi
    rcases List.mem_cons.mp hi with rfl | hi
    · exact value?_spec first
    · exact itemValues?_spec rest i hi

theorem memberValues?_spec {d : Nat} {ms : List (String × Json)} :
    ∀ {ts : List (Option String × Tree)}, memberValues? d ts = some ms →
      ∀ m ∈ ms, m.2.Proper ∧ m.2.height ≤ d
  | [], h => by
    cases h
    simp
  | (key, t) :: ts, h => by
    obtain ⟨k, -, h⟩ := Option.bind_eq_some_iff.mp h
    obtain ⟨j, first, h⟩ := Option.bind_eq_some_iff.mp h
    obtain ⟨js, rest, h⟩ := Option.bind_eq_some_iff.mp h
    cases h
    intro m hm
    rcases List.mem_cons.mp hm with rfl | hm
    · exact value?_spec first
    · exact memberValues?_spec rest m hm

end

end Resilience.Json
