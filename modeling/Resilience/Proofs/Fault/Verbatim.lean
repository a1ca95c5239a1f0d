import Mathlib.Data.List.Nodup
import Resilience.Fault.Template
import Resilience.Proofs.Text.Passes
/-! # Values that are put in verbatim

Substituting replaces one kind of token after another. That is filling a template in a single pass
whatever the template is, exactly if the values that are put in first form no token that is replaced
behind them.
-/
namespace Resilience

open Text (Agree Closed PrefixFree fillFrom)

namespace Template

def tokens : List (List Char) := [namespaceToken.toList, labelToken.toList, kindToken.toList]

/-- Whatever stands around a value, no character of it is part of a token, and it lies in none. -/
def Clear (token value : String) : Prop := Text.Clear token.toList value.toList

instance (token value : String) : Decidable (Clear token value) :=
  inferInstanceAs (Decidable (Text.Clear _ _))

theorem tokens_ne_nil : ∀ t ∈ tokens, t ≠ [] := by decide

theorem tokens_nodup : tokens.Nodup := by decide

theorem tokens_apart : ∀ t ∈ tokens, ∀ t' ∈ tokens, t <+: t' → t = t' := by decide

theorem tokens_closed : ∀ t ∈ tokens, ∀ t' ∈ tokens, t ≠ t' → Closed t t' := by decide +kernel

/-- In front of a token that part of a token stands before, no token begins. -/
theorem before_closed : ∀ t ∈ tokens, ∀ before ∈ t.inits, before ≠ t → ∀ t' ∈ tokens,
    ∀ s ∈ before.tails, s ≠ [] → ∀ mark ∈ tokens, ¬Agree mark (s ++ t') := by decide +kernel

theorem behind_closed : ∀ t ∈ tokens, ∀ s ∈ t.tails, s ≠ t → ∀ mark ∈ tokens, ¬mark <+: s := by
  decide +kernel

end Template

open Template (namespaceToken labelToken kindToken tokens Clear)

namespace TemplateValues

def table (v : TemplateValues) : Text.Table :=
  [(namespaceToken.toList, v.namespaceName.toList), (labelToken.toList, v.appLabel.toList),
    (kindToken.toList, v.appKind.toList)]

/-- A text with all tokens replaced in a single pass. -/
def fillOnce (v : TemplateValues) (text : String) : String :=
  String.ofList (fillFrom v.table 0 text.toList)

variable (v : TemplateValues)

def firstTwo : Text.Table :=
  [(namespaceToken.toList, v.namespaceName.toList), (labelToken.toList, v.appLabel.toList)]

theorem firstTwo_subset : v.firstTwo ⊆ v.table :=
  List.subset_append_left v.firstTwo [(kindToken.toList, v.appKind.toList)]

theorem mem_tokens {p : List Char × List Char} (inside : p ∈ v.table) : p.1 ∈ tokens :=
  List.mem_map_of_mem (f := Prod.fst) inside

theorem prefixFree : PrefixFree v.table where
  nonempty p hp := Template.tokens_ne_nil _ (v.mem_tokens hp)
  apart p hp q hq begins := by
    have different : (v.table.map Prod.fst).Nodup := Template.tokens_nodup
    have same := Template.tokens_apart _ (v.mem_tokens hp) _ (v.mem_tokens hq) begins
    exact List.inj_on_of_nodup_map different hp hq same

theorem substitute_toList (text : String) : (v.substitute text).toList =
    fillFrom [(kindToken.toList, v.appKind.toList)] 0
      (fillFrom [(labelToken.toList, v.appLabel.toList)] 0
        (fillFrom [(namespaceToken.toList, v.namespaceName.toList)] 0 text.toList)) := by
  simp only [substitute, Text.replace, String.toList_ofList, Text.replaceFrom_eq_fillFrom]

variable {v}

/-- The first two tokens may be replaced in one pass, if the namespace forms no second token, or if
that stays what it is. -/
theorem fillFrom_firstTwo
    (label : Clear labelToken v.namespaceName ∨ v.appLabel = labelToken) (cs : List Char) :
    fillFrom [(labelToken.toList, v.appLabel.toList)] 0
      (fillFrom [(namespaceToken.toList, v.namespaceName.toList)] 0 cs) =
        fillFrom v.firstTwo 0 cs := by
  have free : PrefixFree ([(namespaceToken.toList, v.namespaceName.toList)] ++
      [(labelToken.toList, v.appLabel.toList)]) := v.prefixFree.mono (by simp [table])
  have closed : ∀ p ∈ [(namespaceToken.toList, v.namespaceName.toList)],
      Closed p.1 labelToken.toList := by
    simpa using Template.tokens_closed _ (by decide) _ (by decide) (by decide)
  rcases label with clear | own
  · refine free.fillFrom_fillFrom closed (fun p hp => ?_) cs
    obtain rfl := List.mem_singleton.mp hp
    exact clear
  · rw [own] at free
    rw [firstTwo, own, (free.mono (List.subset_append_right _ _)).fillFrom_self]
    exact (free.fillFrom_own closed cs).symm

theorem substitute_eq_fillOnce
    (label : Clear labelToken v.namespaceName ∨ v.appLabel = labelToken)
    (namespaceName : Clear kindToken v.namespaceName) (appLabel : Clear kindToken v.appLabel)
    (text : String) : v.substitute text = v.fillOnce text := by
  have free : PrefixFree (v.firstTwo ++ [(kindToken.toList, v.appKind.toList)]) := v.prefixFree
  have closed : ∀ p ∈ v.firstTwo, Closed p.1 kindToken.toList := by
    have apart : ∀ t ∈ [namespaceToken.toList, labelToken.toList], Closed t kindToken.toList :=
      fun t ht => Template.tokens_closed t (by revert ht; revert t; decide) _ (by decide)
        (by revert ht; revert t; decide)
    exact fun p hp => apart p.1 (List.mem_map_of_mem (f := Prod.fst) hp)
  have clear : ∀ p ∈ v.firstTwo, Text.Clear kindToken.toList p.2 := by
    simpa [firstTwo] using ⟨namespaceName, appLabel⟩
  rw [← String.toList_inj, substitute_toList, fillFrom_firstTwo label,
    free.fillFrom_fillFrom closed clear, fillOnce, String.toList_ofList]
  rfl

/-! ## Values that form tokens -/

/-- Between parts of a token, in front of it and behind it, a token is filled and they stay. -/
theorem fillFrom_around {table : Text.Table} (fewer : table ⊆ v.table) {p : List Char × List Char}
    (inside : p ∈ table) {t before behind : List Char} (known : t ∈ tokens)
    (parts : Text.Parts t before behind) :
    fillFrom table 0 (before ++ p.1 ++ behind) = before ++ p.2 ++ behind := by
  have free : PrefixFree table := v.prefixFree.mono fewer
  have mem : ∀ q ∈ table, q.1 ∈ tokens := fun q hq => v.mem_tokens (fewer hq)
  have front : ∀ s, s <:+ before → s ≠ [] → ∀ q ∈ table, ¬q.1 <+: s ++ (p.1 ++ behind) := by
    intro s part some q hq begins
    rw [← List.append_assoc] at begins
    exact Template.before_closed t known before ((List.mem_inits _ _).mpr parts.first) parts.short
      p.1 (mem p inside) s ((List.mem_tails _ _).mpr part) some q.1 (mem q hq)
      (Text.agree_of_prefix_append begins)
  have back : ∀ s, s <:+ behind → s ≠ [] → ∀ q ∈ table, ¬q.1 <+: s ++ [] := by
    intro s part some q hq begins
    rw [List.append_nil] at begins
    have whole : s ≠ t := by
      rintro rfl
      exact parts.short' (part.eq_of_length_le parts.last.length_le).symm
    exact Template.behind_closed t known s ((List.mem_tails _ _).mpr (part.trans parts.last)) whole
      q.1 (mem q hq) begins
  have kept := Text.fillFrom_keeps back
  rw [List.append_nil] at kept
  rw [List.append_assoc, Text.fillFrom_keeps front, free.fillFrom_mark inside, kept]
  simp [fillFrom]

section Same

variable {ns label : String}
  (same : ∀ kind text, substitute ⟨ns, label, kind⟩ text = fillOnce ⟨ns, label, kind⟩ text)
include same

/-- The namespace forms no token of the selector, or the selector is that token. -/
theorem clear_label : Clear labelToken ns ∨ label = labelToken := by
  by_contra formed
  push Not at formed
  obtain ⟨clash, changed⟩ := formed
  obtain ⟨before, behind, parts, there⟩ :=
    Text.exists_formed (Template.tokens_ne_nil _ (by decide)) clash
  -- a kind that is its own token leaves the text of the second pass as it is
  let v : TemplateValues := ⟨ns, label, kindToken⟩
  obtain ⟨text, shape⟩ : ∃ text : String, text.toList = before ++ namespaceToken.toList ++ behind :=
    ⟨_, String.toList_ofList⟩
  have once : (v.fillOnce text).toList = before ++ ns.toList ++ behind := by
    rw [fillOnce, String.toList_ofList, shape]
    exact fillFrom_around (List.Subset.refl v.table) List.mem_cons_self (by decide) parts
  have passes : (v.substitute text).toList =
      fillFrom [(labelToken.toList, label.toList)] 0 (before ++ ns.toList ++ behind) := by
    have first : fillFrom [(namespaceToken.toList, ns.toList)] 0
        (before ++ namespaceToken.toList ++ behind) = before ++ ns.toList ++ behind :=
      fillFrom_around (v := v) (by simp [v, table]) List.mem_cons_self (by decide) parts
    have kind : PrefixFree [(kindToken.toList, kindToken.toList)] :=
      v.prefixFree.mono (by simp [v, table])
    rw [substitute_toList, kind.fillFrom_self, shape]
    exact congrArg (fillFrom _ 0) first
  have kept := passes.symm.trans ((congrArg String.toList (same kindToken text)).trans once)
  have second : PrefixFree [(labelToken.toList, label.toList)] :=
    v.prefixFree.mono (by simp [v, table])
  exact changed (String.toList_inj.mp (Text.eq_of_fillFrom_eq second _ kept there))

/-- Neither the namespace nor the selector forms a token of the kind. -/
theorem clear_kind {p : List Char × List Char} (inside : p ∈ firstTwo ⟨ns, label, ""⟩) :
    Text.Clear kindToken.toList p.2 := by
  by_contra clash
  obtain ⟨before, behind, parts, there⟩ :=
    Text.exists_formed (Template.tokens_ne_nil _ (by decide)) clash
  let v : TemplateValues := ⟨ns, label, ""⟩
  obtain ⟨text, shape⟩ : ∃ text : String, text.toList = before ++ p.1 ++ behind :=
    ⟨_, String.toList_ofList⟩
  have once : (v.fillOnce text).toList = before ++ p.2 ++ behind := by
    rw [fillOnce, String.toList_ofList, shape]
    exact fillFrom_around (List.Subset.refl v.table) (v.firstTwo_subset inside) (by decide) parts
  have passes : (v.substitute text).toList =
      fillFrom [(kindToken.toList, "".toList)] 0 (before ++ p.2 ++ behind) := by
    have first : fillFrom v.firstTwo 0 (before ++ p.1 ++ behind) = before ++ p.2 ++ behind :=
      fillFrom_around v.firstTwo_subset inside (by decide) parts
    rw [substitute_toList, fillFrom_firstTwo (v := v) (clear_label same), shape]
    exact congrArg (fillFrom _ 0) first
  have kept := passes.symm.trans ((congrArg String.toList (same "" text)).trans once)
  have last : PrefixFree [(kindToken.toList, "".toList)] :=
    v.prefixFree.mono (by simp [v, table])
  have gone : "".toList = kindToken.toList := Text.eq_of_fillFrom_eq last _ kept there
  exact absurd gone (by decide)

end Same

/-- Substituting is filling in a single pass, for every template and every kind, exactly if the
namespace and the selector form no tokens of the passes behind their own. A selector that is its own
token is filled with itself. -/
theorem substitute_once_iff (ns label : String) :
    (∀ kind text, substitute ⟨ns, label, kind⟩ text = fillOnce ⟨ns, label, kind⟩ text) ↔
      (Clear labelToken ns ∨ label = labelToken) ∧ Clear kindToken ns ∧ Clear kindToken label := by
  constructor
  · intro same
    have namespaceName : (namespaceToken.toList, ns.toList) ∈ firstTwo ⟨ns, label, ""⟩ := by
      simp [firstTwo]
    have appLabel : (labelToken.toList, label.toList) ∈ firstTwo ⟨ns, label, ""⟩ := by
      simp [firstTwo]
    exact ⟨clear_label same, clear_kind same namespaceName, clear_kind same appLabel⟩
  · rintro ⟨second, namespaceName, appLabel⟩ kind text
    exact substitute_eq_fillOnce (v := ⟨ns, label, kind⟩) second namespaceName appLabel text

/-- Names of namespaces and selectors as they usually are form no token. -/
example : Clear labelToken "shop" ∧ Clear kindToken "shop" ∧ Clear kindToken "app=web" := by
  decide +kernel

/-- A selector that names the token of the kind. -/
def tieredValues : TemplateValues := ⟨"shop", "tier=" ++ kindToken, "deployment"⟩

/-- A namespace that is the middle of the selector's token. -/
def middleValues : TemplateValues := ⟨"LABEL", "app=web", "deployment"⟩

/-- A value that was put in may be rewritten, and a token may be formed around it. -/
theorem substitute_may_rewrite_value :
    tieredValues.substitute labelToken = "tier=deployment" ∧
      tieredValues.fillOnce labelToken = "tier=" ++ kindToken ∧
      middleValues.substitute ("\x7b\x7bAPP_" ++ namespaceToken ++ "\x7d\x7d") = "app=web" ∧
      middleValues.fillOnce ("\x7b\x7bAPP_" ++ namespaceToken ++ "\x7d\x7d") = labelToken := by
  decide +kernel

end TemplateValues
end Resilience
