import Resilience.Proofs.Json.Lasting
import Resilience.Snapshot.Claim
/-! # Claims written again

A claim that was taken is taken when it is written again, for the same snapshot if its numbers are
integers. Of a claim that is written only its nodes and its raw results decide whether it is taken.
-/
namespace Resilience.Json

/-- A record of an outcome: its name is a text, and so is its status, if there is one. -/
def IsOutcome (j : Json) : Prop :=
  (∃ name, j.member? "-name" = some (.string name)) ∧
    ∀ status, j.member? "-status" = some status → ∃ text, status = .string text

namespace Tree

theorem pair_isSome {α β γ : Type} {x : Option α} {y : Option β} {f : α → β → γ} :
    (do let a ← x; let b ← y; pure (f a b) : Option γ).isSome ↔ x.isSome ∧ y.isSome := by
  cases x <;> cases y <;> simp

namespace Lasting

theorem pluginEntry : Lasting pluginEntry? := by
  have plugins : Lasting (nullable? (list? fun depth t => t.value? depth)) := value.list.nullable
  refine record "name" "plugins" text.required (plugins.defaulted none) PluginEntry.mk fun d t => ?_
  simp only [Option.bind_assoc]
  rfl

theorem testCase : Lasting testCase? := by
  refine record "-name" "-status" text.required (text.defaulted "") TestCase.mk fun d t => ?_
  simp only [Option.bind_assoc]
  rfl

end Lasting

/-- Outcomes are taken if they are whole and either a list of them or a single one. -/
theorem testCases?_isSome {d : Nat} {t : Tree} : (testCases? d t).isSome ↔
    (t.value? d).isSome ∧ ((list? testCase? d t).isSome ∨ (testCase? d t).isSome) := by
  unfold testCases?
  cases t.value? d <;> cases list? testCase? d t <;> simp

/-- What is taken for one outcome is a record, or an array that begins with its name. -/
theorem testCase?_shape_of_some {d : Nat} {t : Tree} {c : TestCase} (h : testCase? d t = some c) :
    (∃ ms, t = .object ms) ∨ ∃ s ts, t = .array (.string s :: ts) := by
  match d, t with
  | _, .null | _, .bool _ | _, .numeral _ | _, .string _ | 0, .array _ => cases h
  | _, .object ms => exact .inl ⟨ms, rfl⟩
  | _ + 1, .array [] => cases h
  | _ + 1, .array (.string s :: ts) => exact .inr ⟨s, ts, rfl⟩
  | d + 1, .array (.null :: ts) | d + 1, .array (.bool _ :: ts) | d + 1, .array (.numeral _ :: ts)
  | d + 1, .array (.array _ :: ts) | d + 1, .array (.object _ :: ts) =>
    obtain ⟨⟨e, fs⟩, fields, h⟩ := Option.bind_eq_some_iff.mp h
    unfold fields? at fields
    dsimp only at fields
    split at fields
    · cases fields
      rcases ts with _ | ⟨t, _ | ⟨t', ts⟩⟩ <;> cases h
    · cases fields

/-- One outcome that is written again is still no list of outcomes. -/
theorem list?_testCase?_none {d : Nat} {t : Tree} {j : Json} {c : TestCase}
    (denotes : Denotes t j) (single : testCase? d t = some c) :
    list? testCase? d j.tree = none := by
  obtain ⟨D, value⟩ := denotes
  rcases testCase?_shape_of_some single with ⟨ms, rfl⟩ | ⟨s, ts, rfl⟩
  · cases D with
    | zero => cases value
    | succ D =>
      obtain ⟨ps, -, rfl⟩ := Option.map_eq_some_iff.mp value
      cases d <;> rfl
  · cases D with
    | zero => cases value
    | succ D =>
      obtain ⟨js, values, rfl⟩ := Option.map_eq_some_iff.mp value
      obtain ⟨j, first, values⟩ := Option.bind_eq_some_iff.mp values
      obtain ⟨js, -, values⟩ := Option.bind_eq_some_iff.mp values
      cases values
      obtain ⟨name, -, rfl⟩ := Option.map_eq_some_iff.mp first
      cases d <;> rfl

namespace Lasting

theorem testCases : Lasting testCases? := by
  intro d t j cs denotes found
  unfold testCases? at found ⊢
  obtain ⟨i, all, found⟩ := Option.bind_eq_some_iff.mp found
  obtain ⟨i', again, -⟩ := value d t j i denotes all
  dsimp only at again
  rw [again, Option.bind_eq_bind, Option.bind_some]
  cases listed : list? testCase? d t with
  | some cs' =>
    rw [listed] at found
    cases found
    obtain ⟨bs, again, same⟩ := testCase.list d t j cs denotes listed
    rw [again]
    exact ⟨bs, rfl, same⟩
  | none =>
    rw [listed] at found
    obtain ⟨c, single, rfl⟩ := Option.map_eq_some_iff.mp found
    obtain ⟨b, again, same⟩ := testCase d t j c denotes single
    rw [list?_testCase?_none denotes single, again]
    exact ⟨[b], rfl, fun whole => by rw [same whole]⟩

theorem rawResults : Lasting rawResults? :=
  testCases.wrapper.wrapper.wrapper.wrapper

theorem nodes : Lasting nodes? := by
  have hardware : Lasting (dict? fun depth t => t.value? depth) := value.dict
  exact record "cniPlugins" "nodesHwInfo" (pluginEntry.list.dict.defaulted [])
    (hardware.defaulted []) Prod.mk fun _ _ => rfl

theorem claim : Lasting claim? :=
  record "nodes" "rawResults" (nodes.defaulted ([], [])) (rawResults.defaulted [])
    (fun parts cases => ⟨parts.1, parts.2, cases⟩) fun _ _ => rfl

theorem claimDocument : Lasting claimDocument? := by
  refine single "claim" claim.required fun d t => ?_
  unfold claimDocument?
  rcases t.fields? ["claim"] d with _ | ⟨e, _ | ⟨_ | f, _ | ⟨g, fs⟩⟩⟩ <;> rfl

end Lasting

section Written

variable {ms cs : Dict String Json} {d : Nat}

theorem claimDocument?_object (hm : Dict.Ascending ms) (hc : Dict.Ascending cs)
    (found : Dict.find? ms "claim" = some (.object cs)) :
    claimDocument? (d + 2) (tree (.object ms)) = (do
      let parts ← defaulted ([], []) nodes? d ((Dict.find? cs "nodes").map tree)
      let cases ← defaulted [] rawResults? d ((Dict.find? cs "rawResults").map tree)
      pure ⟨parts.1, parts.2, cases⟩) := by
  have inner : claimDocument? (d + 2) (tree (.object ms)) = claim? (d + 1) (tree (.object cs)) := by
    rw [claimDocument?, fields?_object hm]
    simp [found]
  rw [inner, claim?, fields?_object hc]
  rfl

/-- A claim document that was written is taken if its nodes and its raw results are. -/
theorem claimDocument?_isSome (hm : Dict.Ascending ms) (hc : Dict.Ascending cs)
    (found : Dict.find? ms "claim" = some (.object cs)) :
    (claimDocument? (d + 2) (tree (.object ms))).isSome ↔
      (defaulted ([], []) nodes? d ((Dict.find? cs "nodes").map tree)).isSome ∧
      (defaulted [] rawResults? d ((Dict.find? cs "rawResults").map tree)).isSome := by
  rw [claimDocument?_object hm hc found, ← pair_isSome (f := fun parts cases =>
    (⟨parts.1, parts.2, cases⟩ : Snapshot))]

variable {α : Type} {name : String} {default : α} {read : Reading α}

theorem wrapper?_object (hm : Dict.Ascending ms) :
    wrapper? name default read (d + 1) (tree (.object ms)) =
      defaulted default read d ((Dict.find? ms name).map tree) := by
  rw [wrapper?, fields?_object hm]
  rfl

theorem wrapper?_array {js : List Json} (h : 2 ≤ js.length) :
    wrapper? name default read d (tree (.array js)) = none := by
  cases d with
  | zero => rfl
  | succ d =>
    have long : ¬(itemTrees js).length ≤ [name].length := by
      rw [itemTrees_eq, List.length_map]
      simp only [List.length_singleton]
      omega
    rw [wrapper?, tree, fields?, if_neg long]
    rfl

theorem wrapper?_string {s : String} : wrapper? name default read d (tree (.string s)) = none :=
  rfl

theorem text?_isSome {j : Json} : (text? d j.tree).isSome ↔ ∃ s, j = .string s := by
  cases j <;> simp [tree, text?]

theorem testCase?_shape {t : Tree} {e : Nat} {f g : Option Tree}
    (fields : t.fields? ["-name", "-status"] d = some (e, [f, g])) :
    (testCase? d t).isSome ↔
      (f.bind (text? e)).isSome ∧ (defaulted "" text? e g).isSome := by
  rw [testCase?, fields, ← pair_isSome (f := fun name status => (⟨name, status⟩ : TestCase))]
  simp only [Option.bind_assoc, Option.bind_eq_bind]
  rfl

/-- An object that was written is taken for an outcome if it is the record of one. -/
theorem testCase?_object (hm : Dict.Ascending ms) :
    (testCase? (d + 1) (tree (.object ms))).isSome ↔ IsOutcome (.object ms) := by
  rw [testCase?_shape (fields?_object hm _ d)]
  refine and_congr ?_ ?_
  · cases found : Dict.find? ms "-name" with
    | none => simp [found]
    | some j => simp [found, text?_isSome]
  · cases found : Dict.find? ms "-status" with
    | none => simp [found, defaulted]
    | some j => simp [found, defaulted, text?_isSome]

/-- An array of several items is taken for one outcome only if it is a name and a status. -/
theorem testCase?_array {js : List Json} (several : 2 ≤ js.length) :
    (testCase? (d + 1) (tree (.array js))).isSome ↔
      ∃ name status, js = [.string name, .string status] := by
  match js, several with
  | [i, j], _ =>
    have short : [i, j].length ≤ ["-name", "-status"].length := le_rfl
    rw [testCase?_shape (fields?_array short d)]
    simp [defaulted, text?_isSome]
  | i :: j :: k :: js, _ =>
    have long : ¬(itemTrees (i :: j :: k :: js)).length ≤ ["-name", "-status"].length := by
      simp [itemTrees_eq]
    rw [testCase?, tree, fields?, if_neg long]
    simp

theorem not_isOutcome_string (s : String) : ¬IsOutcome (.string s) := by
  rintro ⟨⟨name, found⟩, -⟩
  cases found

end Written
end Tree
end Resilience.Json
