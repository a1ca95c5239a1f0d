import Mathlib
import Resilience.Fault.Injection
import Resilience.Proofs.Fault.Tokens
import Resilience.Proofs.Yaml.Member
/-! # Objects of filled templates

Every document of a built-in template is headed by its kind, its name and the namespace of the
target as a plain scalar, whatever else the target is.
-/
namespace Resilience.Template

open Yaml (Line Document)

def builtInKinds : List Mapping :=
  [Fault.experiments, Fault.serviceAccounts, Fault.roles, Fault.roleBindings, Fault.engines]

/-- The document is an object of this kind, in a namespace that is written plainly. -/
structure IsHeaded (m : Mapping) (ns : String) (d : Document) : Prop where
  apiVersion : d.root.at? ["apiVersion"] = some (.scalar none m.apiVersion true)
  kind : d.root.at? ["kind"] = some (.scalar none m.kind true)
  namespaceName : d.root.at? ["metadata", "namespace"] = some (.scalar none ns true)

theorem documents_of_tokens {s : String} {ts : List Yaml.Token} {d : Option Document}
    {ds : List (Option Document)} (read : Yaml.tokens s = ts)
    (built : Yaml.documentsFrom true (ts.length + 1) ts = d :: ds) : Yaml.documents s = d :: ds := by
  rw [Yaml.documents, read, built]

section Documents

variable {v : TemplateValues} (fillable : Fillable v)
include fillable

set_option maxRecDepth 20000 in
theorem documents_experiment : ∃ d, Yaml.documents (v.substitute (ofLines experimentLines)) =
    [some d] ∧ IsHeaded Fault.experiments v.namespaceName d := by
  refine ⟨_, documents_of_tokens (tokens_experiment fillable) (by cbv), ?_, ?_, ?_⟩ <;> cbv

set_option maxRecDepth 20000 in
theorem documents_account : ∃ a r b,
    Yaml.documents (v.substitute (ofLines serviceAccountLines)) = [some a, some r, some b] ∧
    IsHeaded Fault.serviceAccounts v.namespaceName a ∧ IsHeaded Fault.roles v.namespaceName r ∧
    IsHeaded Fault.roleBindings v.namespaceName b := by
  refine ⟨_, _, _, documents_of_tokens (tokens_account fillable) (by cbv), ⟨?_, ?_, ?_⟩,
    ⟨?_, ?_, ?_⟩, ?_, ?_, ?_⟩ <;> cbv

set_option maxRecDepth 20000 in
theorem documents_engine :
    (∃ d, Yaml.documents (v.substitute (ofLines engineLines)) = [some d] ∧
      IsHeaded Fault.engines v.namespaceName d) ∨
    Yaml.documents (v.substitute (ofLines engineLines)) = [none] := by
  rcases tokens_engine fillable with ⟨text, read⟩ | ⟨ts, cut, read⟩
  · refine Or.inl ⟨_, documents_of_tokens read (by cbv), ?_, ?_, ?_⟩ <;> cbv
  · right
    rcases cut with cut | cut <;> rw [cut] at read
    · exact documents_of_tokens read (by cbv)
    · exact documents_of_tokens read (by cbv)

end Documents
variable {m : Mapping} {ns : String} {d : Document} {j : Json}

theorem textAt_of_toJson? {path : List String} {text : String} (deep : path.length ≤ Yaml.maxDepth)
    (read : d.toJson? = some j) (found : d.root.at? path = some (.scalar none text true)) :
    Fault.textAt j path = ((Yaml.plainValue? text).bind Json.string?).getD "" := by
  obtain ⟨x, spelled, there⟩ := Document.at?_of_toJson? deep read found
  rw [Fault.textAt, there, spelled]

def landing (ns : String) : String :=
  ((Yaml.plainValue? ns).bind Json.string?).getD Fault.defaultNamespace

/-- The name of a namespace is read as a text, not as a number, a truth value or null. -/
def isReadAsText (ns : String) : Bool := ((Yaml.plainValue? ns).bind Json.string?).isSome

theorem landing_eq_iff (ns : String) : landing ns = ns ↔ isReadAsText ns = true := by
  unfold landing isReadAsText
  cases text : (Yaml.plainValue? ns).bind Json.string? with
  | none =>
    refine ⟨fun same => ?_, fun h => by cases h⟩
    have default : ((Yaml.plainValue? Fault.defaultNamespace).bind Json.string?).isSome = true := by
      decide +kernel
    rw [show Fault.defaultNamespace = ns from same, text] at default
    exact default
  | some t => exact ⟨fun _ => rfl, fun _ => Yaml.plainValue?_text text⟩

theorem builtInKinds_named : ∀ m ∈ builtInKinds,
    (Yaml.plainValue? m.apiVersion).bind Json.string? = some m.apiVersion ∧
    (Yaml.plainValue? m.kind).bind Json.string? = some m.kind := by
  decide +kernel

/-- The object of a headed document goes where its namespace is read to. -/
theorem IsHeaded.object (h : IsHeaded m ns d) (builtIn : m ∈ builtInKinds) (named : ns ≠ "")
    (read : d.toJson? = some j) :
    Fault.textAt j ["apiVersion"] = m.apiVersion ∧ Fault.textAt j ["kind"] = m.kind ∧
      Fault.namespaceOf j = landing ns := by
  obtain ⟨apiVersion, kind⟩ := builtInKinds_named m builtIn
  refine ⟨?_, ?_, ?_⟩
  · rw [textAt_of_toJson? (by decide) read h.apiVersion, apiVersion, Option.getD_some]
  · rw [textAt_of_toJson? (by decide) read h.kind, kind, Option.getD_some]
  · rw [Fault.namespaceOf, textAt_of_toJson? (by decide) read h.namespaceName, landing]
    cases text : (Yaml.plainValue? ns).bind Json.string? with
    | none => rfl
    | some t =>
      rw [Yaml.plainValue?_text text]
      exact if_neg named

end Resilience.Template
