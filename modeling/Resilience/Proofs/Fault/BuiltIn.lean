import Resilience.Proofs.Fault.Filled
/-! # The lines of the built-in templates

The built-in templates line by line. They can be read back for every target, up to the selector,
which may be any text.
-/
namespace Resilience.Template

open Yaml (Line Role)

def header (apiVersion kind name : String) : List (Line Word) := [
  .entry 0 false "apiVersion" (.plain apiVersion),
  .entry 0 false "kind" (.plain kind),
  .entry 0 false "metadata" .none,
  .entry 2 false "name" (.plain name),
  .entry 2 false "namespace" (.plain .namespaceName)]

def partLabels (indent : Nat) (name : String) : List (Line Word) := [
  .entry indent false "labels" .none,
  .entry (indent + 2) false "name" (.plain name),
  .entry (indent + 2) false "app.kubernetes.io/part-of" (.plain "litmus")]

def rule (indent : Nat) (group resource : String) (resources : List String) (verb : String)
    (verbs : List String) : List (Line Word) := [
  .entry indent true "apiGroups" (.list group []),
  .entry (indent + 2) false "resources" (.list resource (resources.map .text)),
  .entry (indent + 2) false "verbs" (.list verb (verbs.map .text))]

def setting (indent : Nat) (name value : String) : List (Line Word) := [
  .entry indent true "name" (.plain name),
  .entry (indent + 2) false "value" (.quoted value)]

def accountLayout : List (Line Word) :=
  header "v1" "ServiceAccount" "test-sa" ++ partLabels 2 "test-sa" ++ [.separator] ++
  header "rbac.authorization.k8s.io/v1" "Role" "test-sa" ++ partLabels 2 "test-sa" ++
  [.entry 0 false "rules" .none] ++
  rule 2 "" "pods" ["events", "configmaps", "secrets", "services"]
    "create" ["delete", "get", "list", "patch", "update", "deletecollection"] ++
  rule 2 "" "pods/log" ["pods/exec"] "get" ["list", "create"] ++
  rule 2 "apps" "deployments" ["statefulsets", "replicasets", "daemonsets"] "list" ["get"] ++
  rule 2 "batch" "jobs" [] "create" ["list", "get", "delete", "deletecollection"] ++
  rule 2 "litmuschaos.io" "chaosengines" ["chaosexperiments", "chaosresults"]
    "create" ["list", "get", "patch", "update", "delete"] ++ [.separator] ++
  header "rbac.authorization.k8s.io/v1" "RoleBinding" "test-sa" ++ partLabels 2 "test-sa" ++ [
  .entry 0 false "roleRef" .none,
  .entry 2 false "apiGroup" (.plain "rbac.authorization.k8s.io"),
  .entry 2 false "kind" (.plain "Role"),
  .entry 2 false "name" (.plain "test-sa"),
  .entry 0 false "subjects" .none,
  .entry 2 true "kind" (.plain "ServiceAccount"),
  .entry 4 false "name" (.plain "test-sa"),
  .entry 4 false "namespace" (.plain .namespaceName)]

def experimentLayout : List (Line Word) :=
  header "litmuschaos.io/v1alpha1" "ChaosExperiment" "pod-delete" ++ partLabels 2 "pod-delete" ++ [
  .entry 4 false "app.kubernetes.io/component" (.plain "chaosexperiment"),
  .entry 0 false "description" .none,
  .entry 2 false "message"
    (.quoted "Deletes pods of the target application and checks they are recreated"),
  .entry 0 false "spec" .none,
  .entry 2 false "definition" .none,
  .entry 4 false "scope" (.plain "Namespaced"),
  .entry 4 false "permissions" .none] ++
  rule 6 "" "pods" [] "create" ["delete", "get", "list", "patch", "update", "deletecollection"] ++
  rule 6 "" "events" [] "create" ["get", "list", "patch", "update"] ++
  rule 6 "apps" "deployments" ["statefulsets", "replicasets"] "list" ["get"] ++
  rule 6 "batch" "jobs" [] "create" ["list", "get", "delete", "deletecollection"] ++
  rule 6 "litmuschaos.io" "chaosengines" ["chaosexperiments", "chaosresults"]
    "create" ["list", "get", "patch", "update", "delete"] ++ [
  .entry 4 false "image" (.quoted "litmuschaos/go-runner:2.14.0"),
  .entry 4 false "imagePullPolicy" (.plain "Always"),
  .entry 4 false "args" .none,
  .item 6 "-c",
  .item 6 "./experiments -name pod-delete",
  .entry 4 false "command" .none,
  .item 6 "/bin/bash",
  .entry 4 false "env" .none] ++
  setting 6 "TOTAL_CHAOS_DURATION" "15" ++ setting 6 "RAMP_TIME" "" ++ setting 6 "FORCE" "true" ++
  setting 6 "CHAOS_INTERVAL" "5" ++ setting 6 "PODS_AFFECTED_PERC" "" ++ setting 6 "LIB" "litmus" ++
  setting 6 "TARGET_PODS" "" ++ setting 6 "SEQUENCE" "parallel" ++ partLabels 4 "pod-delete" ++ [
  .entry 6 false "app.kubernetes.io/component" (.plain "experiment-job")]

def engineHead : List (Line Word) :=
  header "litmuschaos.io/v1alpha1" "ChaosEngine" "engine-test" ++ [
  .entry 0 false "spec" .none,
  .entry 2 false "appinfo" .none,
  .entry 4 false "appns" (.quoted .namespaceName)]

def selectorLine : Line Word := .entry 4 false "applabel" (.quoted .appLabel)

def engineRest : List (Line Word) := [
  .entry 4 false "appkind" (.quoted .appKind),
  .entry 2 false "engineState" (.quoted "active"),
  .entry 2 false "chaosServiceAccount" (.plain "test-sa"),
  .entry 2 false "jobCleanUpPolicy" (.quoted "delete"),
  .entry 2 false "experiments" .none,
  .entry 4 true "name" (.plain "pod-delete"),
  .entry 6 false "spec" .none,
  .entry 8 false "components" .none,
  .entry 10 false "env" .none] ++
  setting 12 "TOTAL_CHAOS_DURATION" "30" ++ setting 12 "CHAOS_INTERVAL" "10" ++
  setting 12 "FORCE" "false"

def engineLayout : List (Line Word) := engineHead ++ selectorLine :: engineRest

def unfilledLines (ls : List (Line Word)) : List String :=
  ls.map fun l => String.ofList (List.replicate l.indent ' ' ++ l.text (Word.fill unfilled))

theorem ofLines_unfilledLines (ls : List (Line Word)) :
    (ofLines (unfilledLines ls)).toList = filled unfilled ls := by
  simp only [ofLines, unfilledLines, filled, String.toList_join, List.flatMap_map,
    String.toList_append, String.toList_ofList, List.append_assoc]
  rfl

theorem serviceAccountLines_eq : serviceAccountLines = unfilledLines accountLayout := by
  decide +kernel

theorem experimentLines_eq : experimentLines = unfilledLines experimentLayout := by decide +kernel

theorem engineLines_eq : engineLines = unfilledLines engineLayout := by decide +kernel

def labelChars : List Char := "abcdefghijklmnopqrstuvwxyz0123456789-".toList

structure IsDnsLabel (s : String) : Prop where
  chars : ∀ c ∈ s.toList, c ∈ labelChars
  first : ∃ c ∈ s.toList.head?, c ≠ '-'
  last : ∀ c ∈ s.toList.getLast?, c ≠ '-'

instance (s : String) : Decidable (IsDnsLabel s) :=
  decidable_of_iff ((∀ c ∈ s.toList, c ∈ labelChars) ∧ (∃ c ∈ s.toList.head?, c ≠ '-') ∧
      ∀ c ∈ s.toList.getLast?, c ≠ '-')
    ⟨fun ⟨chars, first, last⟩ => ⟨chars, first, last⟩, fun ⟨chars, first, last⟩ =>
      ⟨chars, first, last⟩⟩

theorem labelChars_spec : ∀ c ∈ labelChars, Yaml.isPlain c = true ∧ Yaml.isBlank c = false ∧
    Yaml.isQuotable c = true ∧ Yaml.isAllowed c = true ∧ c ≠ '{' ∧
    (c ≠ '-' → Yaml.Blocks.beginsPlain 0 c ' ' = true) := by
  decide +kernel

namespace IsDnsLabel

variable {s : String} (h : IsDnsLabel s)
include h

theorem isTokenFree : Template.isTokenFree s = true := by
  refine List.all_eq_true.2 fun c hc => ?_
  simpa using (labelChars_spec c (h.chars c hc)).2.2.2.2.1

theorem isAllowed : s.toList.all Yaml.isAllowed = true :=
  List.all_eq_true.2 fun c hc => (labelChars_spec c (h.chars c hc)).2.2.2.1

theorem fits_quoted : Role.quoted.Fits s :=
  fun c hc => (labelChars_spec c (h.chars c hc)).2.2.1

theorem fits_plain : Role.plain.Fits s where
  begins := by
    obtain ⟨c, hc, noDash⟩ := h.first
    have spec := labelChars_spec c (h.chars c (List.mem_of_head? hc))
    exact ⟨c, hc, spec.2.1, Yaml.Blocks.beginsPlain_everywhere (spec.2.2.2.2.2 noDash) _ _⟩
  plain c hc := (labelChars_spec c (h.chars c hc)).1
  last c hc := (labelChars_spec c (h.chars c (List.mem_of_getLast? hc))).2.1

end IsDnsLabel

/-- The word can be read back in its role, whatever target a template is filled for. -/
def isSound : Role × Word → Bool
  | (role, .text s) => role.Fits s && s.toList.all Yaml.isAllowed && Template.isTokenFree s
  | (role, .namespaceName) => role = .plain || role = .quoted
  | (role, .appKind) => role = .quoted
  | (_, .appLabel) => false

def areSound (ls : List (Line Word)) : Bool := ls.all fun l => l.words.all isSound

theorem areSound_spec {ls : List (Line Word)} (h : areSound ls = true) :
    ∀ l ∈ ls, ∀ p ∈ l.words, isSound p = true :=
  fun l hl p hp => List.all_eq_true.1 (List.all_eq_true.1 h l hl) p hp

theorem account_sound : areSound accountLayout = true := by decide +kernel

theorem experiment_sound : areSound experimentLayout = true := by decide +kernel

theorem engineHead_sound : areSound engineHead = true := by decide +kernel

theorem engineRest_sound : areSound engineRest = true := by decide +kernel

end Resilience.Template
