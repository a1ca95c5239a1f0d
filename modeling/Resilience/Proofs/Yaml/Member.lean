import Resilience.Proofs.Dict
import Resilience.Yaml.Value
/-! # Members of a document

What lies at a path of a document's value is the value of the node at that path: in a mapping the
last one of its key, if no key is written by an alias.
-/
namespace Resilience

namespace Yaml

namespace Node

def text? : Node → Option String
  | .scalar _ text _ => some text
  | _ => none

def findLast? : List (Node × Node) → String → Option Node
  | [], _ => none
  | (key, value) :: pairs, k =>
    (findLast? pairs k).or (if key.text? = some k then some value else none)

/-- The value of a key in a mapping, all of whose keys are scalars. -/
def member? : Node → String → Option Node
  | .mapping none pairs, k =>
    if pairs.all (·.1.text?.isSome) then findLast? pairs k else none
  | _, _ => none

def at? (n : Node) : List String → Option Node
  | [] => some n
  | k :: path => (n.member? k).bind (·.at? path)

end Node

namespace Document

variable {d : Document} {depth jumps jumps' : Nat}

/-- A reading of two steps goes through a value and a count in between. -/
theorem Reading.bind_eq_some {α β : Type} {x : Reading α} {f : α → Reading β} {result : β × Nat}
    (h : (x >>= f) jumps = some result) :
    ∃ a between, x jumps = some (a, between) ∧ f a between = some result := by
  obtain ⟨⟨a, between⟩, first, second⟩ := Option.bind_eq_some_iff.1 h
  exact ⟨a, between, first, second⟩

theorem value_scalar (text : String) (jumps : Nat) :
    d.value depth (.scalar none text true) jumps = (plainValue? text).map (·, jumps) := by
  cases depth <;> rfl

def pair (d : Document) (depth : Nat) (p : Node × Node) : Reading (String × Json) := do
  let k ← d.key p.1
  let v ← d.value depth p.2
  pure (k, v)

theorem value_mapping (pairs : List (Node × Node)) :
    d.value (depth + 1) (.mapping none pairs) =
      (do pure (.object (Dict.ofList (← pairs.mapM (d.pair depth))))) :=
  rfl

theorem key_text? {n : Node} {k : String} {name : String × Nat} (scalar : n.text? = some k)
    (read : d.key n jumps = some name) : name = (k, jumps) := by
  cases n with
  | scalar tag text plain =>
    obtain rfl := Option.some.inj scalar
    exact (Option.some.inj read).symm
  | _ => cases scalar

/-- The value of a key is that of its last node. -/
theorem findLast?_pairs {pairs : List (Node × Node)} {members : List (String × Json)}
    (keys : pairs.all (·.1.text?.isSome) = true)
    (read : (pairs.mapM (d.pair depth)) jumps = some (members, jumps')) {k : String} :
    (Node.findLast? pairs k = none ∧ Dict.findLast? members k = none) ∨
    ∃ n j a b, Node.findLast? pairs k = some n ∧ d.value depth n a = some (j, b) ∧
      Dict.findLast? members k = some j := by
  induction pairs generalizing members jumps with
  | nil =>
    obtain ⟨rfl, -⟩ := Prod.mk.inj (Option.some.inj read)
    exact Or.inl ⟨rfl, rfl⟩
  | cons p pairs ih =>
    obtain ⟨key, n⟩ := p
    simp only [List.all_cons, Bool.and_eq_true] at keys
    obtain ⟨text, scalar⟩ := Option.isSome_iff_exists.1 keys.1
    rw [List.mapM_cons] at read
    obtain ⟨m, between, one, more⟩ := Reading.bind_eq_some read
    obtain ⟨rest, after, others, done⟩ := Reading.bind_eq_some more
    obtain ⟨rfl, rfl⟩ := Prod.mk.inj (Option.some.inj done)
    obtain ⟨name, start, named, behind⟩ := Reading.bind_eq_some one
    obtain ⟨j, stop, valued, made⟩ := Reading.bind_eq_some behind
    obtain ⟨rfl, -⟩ := Prod.mk.inj (Option.some.inj made)
    obtain ⟨rfl, -⟩ := Prod.mk.inj (key_text? scalar named)
    rw [Node.findLast?, Dict.findLast?]
    rcases ih keys.2 others with ⟨none, none'⟩ | ⟨n', j', a, b, found, valued', found'⟩
    · rw [none, none', scalar]
      by_cases same : name = k
      · exact Or.inr ⟨n, j, _, _, by simp [same], valued, by simp [same]⟩
      · exact Or.inl ⟨by simp [same], by simp [Ne.symm same]⟩
    · exact Or.inr ⟨n', j', a, b, by rw [found]; rfl, valued', by rw [found']; rfl⟩

/-- The value of a node's member is the member of its value. -/
theorem member?_of_value {n v : Node} {j : Json}
    (read : d.value (depth + 1) n jumps = some (j, jumps')) {k : String}
    (member : n.member? k = some v) :
    ∃ x a b, d.value depth v a = some (x, b) ∧ j.member? k = some x := by
  cases n with
  | mapping tag pairs =>
    cases tag with
    | some tag => cases member
    | none =>
      rw [Node.member?] at member
      split at member
      · next keys =>
        rw [value_mapping] at read
        obtain ⟨members, between, pairs, done⟩ := Reading.bind_eq_some read
        obtain ⟨rfl, -⟩ := Prod.mk.inj (Option.some.inj done)
        rcases findLast?_pairs keys pairs with ⟨none, -⟩ | ⟨v', x, a, b, found, valued, found'⟩
        · rw [member] at none
          cases none
        · rw [member] at found
          obtain rfl := Option.some.inj found
          exact ⟨x, a, b, valued, (Dict.find?_ofList members k).trans found'⟩
      · cases member
  | _ => cases member

/-- What lies at a path is the value of the plain scalar there. -/
theorem at?_of_value {path : List String} {text : String} {n : Node} {j : Json}
    (deep : path.length ≤ depth) (read : d.value depth n jumps = some (j, jumps'))
    (found : n.at? path = some (.scalar none text true)) :
    ∃ x, plainValue? text = some x ∧ j.at? path = some x := by
  induction path generalizing depth jumps jumps' n j with
  | nil =>
    obtain rfl := Option.some.inj found
    rw [value_scalar] at read
    obtain ⟨x, spelled, same⟩ := Option.map_eq_some_iff.1 read
    obtain ⟨rfl, -⟩ := Prod.mk.inj same
    exact ⟨x, spelled, rfl⟩
  | cons k path ih =>
    cases depth with
    | zero => cases deep
    | succ depth =>
      obtain ⟨v, member, found⟩ := Option.bind_eq_some_iff.1 found
      obtain ⟨x, a, b, valued, member'⟩ := member?_of_value read member
      obtain ⟨y, spelled, there⟩ := ih (Nat.le_of_succ_le_succ deep) valued found
      exact ⟨y, spelled, by rw [Json.at?_cons, member', Option.bind_some, there]⟩

theorem at?_of_toJson? {path : List String} {text : String} {j : Json}
    (deep : path.length ≤ maxDepth) (read : d.toJson? = some j)
    (found : d.root.at? path = some (.scalar none text true)) :
    ∃ x, plainValue? text = some x ∧ j.at? path = some x := by
  obtain ⟨⟨j', jumps⟩, valued, rfl⟩ := Option.map_eq_some_iff.1 read
  exact at?_of_value deep valued found

end Document

theorem int?_eq_some {cs : List Char} {value : Option Json} (h : int? cs = some value) :
    ∀ s, value ≠ some (.string s) := by
  unfold int? at h
  split at h
  · split at h
    · cases h
      simp [Json.int]
    · split at h
      · cases h
        simp
      · cases h
  · cases h

theorem float?_eq_some {cs : List Char} {j : Json} (h : float? cs = some j) :
    ∀ s, j ≠ .string s := by
  unfold float? at h
  split at h
  · cases h
    simp
  · obtain ⟨x, -, rfl⟩ := Option.map_eq_some_iff.1 h
    simp [Json.float]

/-- A plain scalar that is a text is the text that it is written as. -/
theorem plainValue?_string {s t : String} (h : plainValue? s = some (.string t)) : t = s := by
  unfold plainValue? at h
  dsimp only at h
  split at h
  · cases h
  · split at h
    · cases h
    · split at h
      · next found => exact absurd h (int?_eq_some found t)
      · split at h
        · cases h
          rfl
        · cases number : float? s.toList with
          | none =>
            rw [number] at h
            cases h
            rfl
          | some j =>
            rw [number] at h
            exact absurd (Option.some.inj h) (float?_eq_some number t)

theorem plainValue?_text {s t : String} (h : (plainValue? s).bind Json.string? = some t) : t = s := by
  obtain ⟨j, spelled, text⟩ := Option.bind_eq_some_iff.1 h
  cases j with
  | string t' =>
    obtain rfl := Option.some.inj text
    exact plainValue?_string spelled
  | _ => cases text

end Yaml
end Resilience
