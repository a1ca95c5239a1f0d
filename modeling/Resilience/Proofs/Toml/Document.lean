import Resilience.Proofs.Dict
import Resilience.Toml.Document
/-! # The entries of a document

Whatever the statements of a document are, they keep the keys of its table in ascending order, so
that a parsed document has every key once.
-/
namespace Resilience.Toml

open Dict (Ascending)

variable {through opening : Opening} {path : List String} {key : String} {v : Toml}
  {ds ds' : Drafts}

def KeepsOrder (f : Opening → Drafts → Option Drafts) : Prop :=
  ∀ {opening ds ds'}, Ascending ds → f opening ds = some ds' → Ascending ds'

theorem KeepsOrder.alter? {f : Opening → Drafts → Option Drafts} (keeps : KeepsOrder f) :
    KeepsOrder (alter? through f path) := by
  intro opening ds ds' h made
  cases path with
  | nil => exact keeps h made
  | cons key path =>
    -- below the first key of a path the table of the path only has that key's value replaced
    rw [Toml.alter?] at made
    split at made
    · obtain ⟨es, -, rfl⟩ := Option.map_eq_some_iff.mp made
      exact h.insert key _
    · split at made
      · cases made
      · obtain ⟨es, -, rfl⟩ := Option.map_eq_some_iff.mp made
        exact h.insert key _
    · obtain ⟨es, -, rfl⟩ := Option.map_eq_some_iff.mp made
      exact h.insert key _
    · cases made

theorem openTable?_keepsOrder : KeepsOrder (openTable? key) := by
  intro opening ds ds' h made
  unfold openTable? at made
  split at made
  · cases made
    exact h.insert key _
  · cases made
    exact h.insert key _
  · cases made

theorem openItem?_keepsOrder : KeepsOrder (openItem? key) := by
  intro opening ds ds' h made
  unfold openItem? at made
  split at made
  · cases made
    exact h.insert key _
  · cases made
    exact h.insert key _
  · cases made

theorem assign?_keepsOrder {dotted : Bool} : KeepsOrder (assign? dotted key v) := by
  intro opening ds ds' h made
  unfold assign? at made
  split at made
  · cases made
  · split at made
    · cases made
      exact h.insert key _
    · cases made

theorem assignPath?_keepsOrder : KeepsOrder (assignPath? path v) := by
  intro opening ds ds' h made
  obtain ⟨⟨front, key⟩, -, made⟩ := Option.bind_eq_some_iff.mp made
  exact assign?_keepsOrder.alter? h made

theorem Building.step?_ascending {b b' : Building} {s : Statement} (h : Ascending b.entries)
    (made : b.step? s = some b') : Ascending b'.entries := by
  cases s with
  | header path =>
    obtain ⟨⟨front, key⟩, -, made⟩ := Option.bind_eq_some_iff.mp made
    obtain ⟨es, opened, built⟩ := Option.bind_eq_some_iff.mp made
    cases built
    exact openTable?_keepsOrder.alter? h opened
  | arrayHeader path =>
    obtain ⟨⟨front, key⟩, -, made⟩ := Option.bind_eq_some_iff.mp made
    obtain ⟨es, opened, built⟩ := Option.bind_eq_some_iff.mp made
    cases built
    exact openItem?_keepsOrder.alter? h opened
  | assign path w =>
    obtain ⟨v, -, made⟩ := Option.bind_eq_some_iff.mp made
    obtain ⟨es, assigned, built⟩ := Option.bind_eq_some_iff.mp made
    cases built
    exact assignPath?_keepsOrder.alter? h assigned

theorem Building.run_ascending {ss : List Statement} {b b' : Building}
    (h : Ascending b.entries) (made : ss.foldlM Building.step? b = some b') :
    Ascending b'.entries := by
  induction ss generalizing b with
  | nil =>
    cases made
    exact h
  | cons s ss ih =>
    rw [List.foldlM_cons] at made
    obtain ⟨b₁, stepped, made⟩ := Option.bind_eq_some_iff.mp made
    exact ih (step?_ascending h stepped) made

theorem finishEntries_eq_map : finishEntries ds = ds.map fun e => (e.1, e.2.finish) := by
  induction ds with
  | nil => rfl
  | cons e ds ih => rw [finishEntries, List.map_cons, ih]

theorem parse?_ascending {s : String} {entries : Dict String Toml}
    (parsed : parse? s = some entries) : Ascending entries := by
  obtain ⟨ss, -, parsed⟩ := Option.bind_eq_some_iff.mp parsed
  obtain ⟨b, built, parsed⟩ := Option.bind_eq_some_iff.mp parsed
  cases parsed
  have drafts : Ascending b.entries := Building.run_ascending Ascending.nil built
  rw [finishEntries_eq_map]
  exact List.pairwise_map.mpr drafts

end Resilience.Toml
