import Resilience.Fault.Injection
import Resilience.Proofs.Cluster.Store
import Resilience.Proofs.Except
import Resilience.Proofs.Scenario.Frame
/-! # What a fault injection creates

Objects are created under the names in their documents, and what was created is in the store until
it is deleted.
-/
namespace Resilience

theorem checkDocument_eq_ok {source : String} {index : Nat} {value object : Json}
    (h : checkDocument source index value = .ok object) :
    object = value ∧ ∀ path ∈ requiredPaths, hasText value path = true := by
  unfold checkDocument at h
  split at h
  · cases h
  · next complete =>
    refine ⟨(Except.ok.inj h).symm, ?_⟩
    intro path hp
    simpa using List.find?_eq_none.mp complete path hp

/-- Documents that pass the check are values of the text, and have what every object needs. -/
theorem passed_of_checkDocuments {source : String} {index : Nat} {values : List (Option Json)}
    {documents : List Json} (h : checkDocuments source index values = .ok documents) :
    ∀ d ∈ documents, some d ∈ values ∧ ∀ path ∈ requiredPaths, hasText d path = true := by
  induction values generalizing index documents with
  | nil =>
    cases h
    simp
  | cons value values ih =>
    cases value with
    | none => cases h
    | some value =>
      rw [checkDocuments] at h
      split at h
      · intro d hd
        exact (ih h d hd).imp_left (List.mem_cons_of_mem _)
      · obtain ⟨object, checked, h⟩ := bind_eq_ok h
        obtain ⟨rest, later, h⟩ := bind_eq_ok h
        cases h
        obtain ⟨rfl, complete⟩ := checkDocument_eq_ok checked
        intro d hd
        rcases List.mem_cons.1 hd with rfl | hd
        · exact ⟨List.mem_cons_self, complete⟩
        · exact (ih later d hd).imp_left (List.mem_cons_of_mem _)

def CreatedObject.key (o : CreatedObject) : ObjectKey := ⟨o.kind, o.namespaceName, o.name⟩

namespace Fault

open ScriptedCluster (client Grown OwnNames SameSetup)

/-- The name of an object does not depend on the namespace that it goes to. -/
theorem objectName_withNamespace (document : Json) (ns : String) :
    objectName (withNamespace document ns) = textAt document ["metadata", "name"] := by
  unfold objectName textAt withNamespace
  cases document with
  | object ms =>
    cases found : Dict.find? ms "metadata" with
    | none => simp [Json.setMember, found, Json.member?]
    | some metadata =>
      cases metadata with
      | object inner =>
        have other : "name" ≠ "namespace" := by decide
        simp [Json.setMember, found, Dict.find?_insert_of_ne _ _ other]
      | _ => simp [Json.setMember, found, Json.member?]
  | _ => rfl

theorem objectName_placed (document : Json) (ns : Option String) :
    objectName (ns.elim document (withNamespace document)) =
      textAt document ["metadata", "name"] := by
  cases ns with
  | none => rfl
  | some ns => exact objectName_withNamespace document ns

def objectOf (m : Mapping) (document : Json) : CreatedObject :=
  ⟨textAt document ["kind"], if m.namespaced then some (namespaceOf document) else none,
    textAt document ["metadata", "name"]⟩

/-- The kinds that a cluster serves, by version and name. -/
abbrev Kinds := List ((String × String) × Mapping)

variable (kinds : Kinds) (P : Json → Prop)

structure IsStored (c : ScriptedCluster) (o : CreatedObject) : Prop where
  held : ∃ object, c.object? o.key = some object
  document : ∃ d m, P d ∧ o = objectOf m d ∧
    Dict.find? kinds (textAt d ["apiVersion"], textAt d ["kind"]) = some m

def Stored (objects : List CreatedObject) (c : ScriptedCluster) : Prop :=
  ∀ o ∈ objects, IsStored kinds P c o

variable {kinds P}

theorem Stored.grown {objects : List CreatedObject} {c c' : ScriptedCluster}
    (h : Stored kinds P objects c) (grown : Grown c c') : Stored kinds P objects c' := by
  intro o ho
  obtain ⟨object, found⟩ := (h o ho).held
  exact ⟨⟨object, grown.kept o.key object found⟩, (h o ho).document⟩

variable (kinds P)

/-- A run that only adds to the store: what was noted as stored before it, and what its result notes
as created, is there when it ends. -/
def Adds {α : Type} (before : List CreatedObject) (created : α → List CreatedObject)
    (m : Scenario ScriptedCluster α) : Prop :=
  ∀ s, s.state.cluster.kinds = kinds → s.state.cluster.OwnNames →
    Stored kinds P before s.state.cluster →
    Grown s.state.cluster (m s).2.state.cluster ∧
    Stored kinds P (created (m s).1) (m s).2.state.cluster

variable {kinds P}

namespace Adds

variable {α β : Type} {before : List CreatedObject} {created : α → List CreatedObject}
  {added : β → List CreatedObject} {m : Scenario ScriptedCluster α}
  {f : α → Scenario ScriptedCluster β}

theorem pure {a : α} (noted : ∀ o ∈ created a, o ∈ before) :
    Adds kinds P before created (Pure.pure a) :=
  fun s _ _ stored => ⟨refl s.state.cluster, fun o ho => stored o (noted o ho)⟩

/-- What comes next may rely on its argument being an answer of the run before it. -/
theorem bind (hm : Adds kinds P before created m)
    (hf : ∀ a, (∃ s, s.state.cluster.kinds = kinds ∧ s.state.cluster.OwnNames ∧ (m s).1 = a) →
      Adds kinds P (created a) added (f a)) :
    Adds kinds P before added (m >>= f) := by
  intro s served own stored
  obtain ⟨grown, there⟩ := hm s served own stored
  obtain ⟨grown', there'⟩ := hf (m s).1 ⟨s, served, own, rfl⟩ (m s).2
    (grown.setup.kinds.trans served) (grown.setup.ownNames own) there
  exact ⟨IsTrans.trans _ _ _ grown grown', there'⟩

theorem of_keeps (h : Keeps Stage.cluster Grown m) : Adds kinds P before (fun _ => before) m :=
  fun s _ _ stored => ⟨h s, stored.grown (h s)⟩

end Adds

variable (before : List CreatedObject)

theorem create_adds {document : Json} (good : P document) {m : Mapping}
    (named : m.kind = textAt document ["kind"])
    (found : Dict.find? kinds (textAt document ["apiVersion"], textAt document ["kind"]) = some m) :
    Adds kinds P before (fun r => before ++ r.toOption.toList.map fun _ => objectOf m document)
      (Scenario.perform client (.create m (objectOf m document).namespaceName
        ((objectOf m document).namespaceName.elim document (withNamespace document)))) := by
  intro s served own stored
  generalize hns : (objectOf m document).namespaceName = ns
  have grown := ScriptedCluster.grown_create m ns (ns.elim document (withNamespace document))
    s.state.cluster
  refine ⟨grown, fun o ho => ?_⟩
  rcases List.mem_append.1 ho with ho | ho
  · exact stored.grown grown o ho
  · obtain ⟨u, answered, rfl⟩ := List.mem_map.1 ho
    refine ⟨⟨ns.elim document (withNamespace document), ?_⟩, document, m, good, rfl, found⟩
    have key : (objectOf m document).key = ⟨m.kind, ns, objectName
        (ns.elim document (withNamespace document))⟩ := by
      rw [objectName_placed, named, ← hns]
      rfl
    rw [key]
    refine ScriptedCluster.object?_create m ns _ ?_
    change u ∈ (client.perform (.create m ns _) s.state.cluster).1.toOption.toList at answered
    cases reply : (client.perform (.create m ns (ns.elim document (withNamespace document)))
        s.state.cluster).1 with
    | error e =>
      rw [reply] at answered
      cases answered
    | ok u => rfl

theorem createDocument_adds {document : Json} (good : P document) :
    Adds kinds P before (fun r => before ++ r.toOption.toList)
      (createDocument client document) := by
  refine (Adds.of_keeps (Scenario.keeps_perform
    (ScriptedCluster.grown_perform (by simp)))).bind ?_
  rintro (e | mapping) ⟨s, served, own, answered⟩
  · exact Adds.pure (by simp [Except.toOption])
  · have found := ScriptedCluster.resolve_found answered
    rw [served] at found
    refine (create_adds before good (ScriptedCluster.resolve_kind own answered) found).bind ?_
    rintro (e | u) -
    · exact Adds.pure (by simp [Except.toOption])
    · exact Adds.pure fun o ho => ho

theorem createDocuments_adds {documents : List Json} (good : ∀ d ∈ documents, P d) :
    Adds kinds P before (fun r => before ++ r.1) (createDocuments client documents) := by
  induction documents generalizing before with
  | nil => exact Adds.pure (by simp)
  | cons d ds ih =>
    refine (createDocument_adds before (good d (by simp))).bind ?_
    rintro (e | object) -
    · exact Adds.pure (by simp [Except.toOption])
    · refine (ih _ fun d' hd => good d' (by simp [hd])).bind fun rest _ => Adds.pure ?_
      simp [Except.toOption]

theorem applyTemplates_adds {source : TemplateSource} {values : TemplateValues}
    {names : List String} (good : ∀ name ∈ names, ∀ documents,
      source.render name values = .ok documents → ∀ d ∈ documents, P d) :
    Adds kinds P before (fun r => before ++ r.1) (applyTemplates client source values names) := by
  induction names generalizing before with
  | nil => exact Adds.pure (by simp)
  | cons name names ih =>
    unfold applyTemplates
    cases rendered : source.render name values with
    | error e => exact Adds.pure (by simp)
    | ok documents =>
      refine (createDocuments_adds before (good name (by simp) documents rendered)).bind ?_
      rintro ⟨objects, e | u⟩ -
      · exact Adds.pure (by simp)
      · refine (ih _ fun name hn => good name (by simp [hn])).bind fun rest _ => Adds.pure ?_
        simp

theorem apply_adds {source : TemplateSource} {target : FaultTarget}
    (good : ∀ name ∈ Template.creationOrder, ∀ documents,
      source.render name target.templateValues = .ok documents → ∀ d ∈ documents, P d) :
    Adds kinds P [] Prod.fst (apply client source target) := by
  exact applyTemplates_adds [] good

def emptyStage : Timed (Stage ScriptedCluster) := ⟨{}, ⟨ScriptedCluster.initial, []⟩⟩

end Fault
end Resilience
