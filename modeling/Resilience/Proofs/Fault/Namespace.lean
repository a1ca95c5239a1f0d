import Resilience.Proofs.Fault.Create
import Resilience.Proofs.Fault.Objects
/-! # Where the objects of a target go

With the built-in templates an object goes to the namespace of its target exactly if the cluster
keeps its kind in namespaces and the namespace's name, which the templates write plainly, is read
as a text.
-/
namespace Resilience

namespace Fault

open ScriptedCluster (client)
open Template (builtInKinds landing isReadAsText Fillable IsHeaded)

/-- No file stands in for a built-in template. -/
def IsBuiltIn (source : TemplateSource) : Prop :=
  ∀ name ∈ Template.creationOrder, source.file? name = none

/-- The object is one of the built-in kinds and goes where the namespace is read to. -/
def LandsIn (ns : String) (object : Json) : Prop :=
  ∃ m ∈ builtInKinds, textAt object ["apiVersion"] = m.apiVersion ∧
    textAt object ["kind"] = m.kind ∧ namespaceOf object = landing ns

variable {source : TemplateSource} {v : TemplateValues}

theorem render_builtIn {name : String} {lines : List String} (plain : source.file? name = none)
    (builtIn : Dict.find? Template.builtIn name = some lines) :
    source.render name v =
      (decodeDocuments name (v.substitute (Template.ofLines lines))).mapError .object := by
  have text : source.text name = .ok (Template.ofLines lines) := by
    simp only [TemplateSource.text, plain, builtIn]
  rw [TemplateSource.render, text]
  exact pure_bind (Template.ofLines lines) _

theorem mem_of_render {name : String} {lines : List String} (plain : source.file? name = none)
    (builtIn : Dict.find? Template.builtIn name = some lines) {documents : List Json}
    (rendered : source.render name v = .ok documents) :
    ∀ j ∈ documents, ∃ d, some d ∈ Yaml.documents (v.substitute (Template.ofLines lines)) ∧
      d.toJson? = some j := by
  rw [render_builtIn plain builtIn] at rendered
  intro j hj
  cases decoded : decodeDocuments name (v.substitute (Template.ofLines lines)) with
  | error e =>
    rw [decoded] at rendered
    cases rendered
  | ok documents' =>
    rw [decoded] at rendered
    cases rendered
    obtain ⟨d, hd, valued⟩ := List.mem_map.1 (passed_of_checkDocuments decoded j hj).1
    obtain ⟨document, rfl, read⟩ := Option.bind_eq_some_iff.1 valued
    exact ⟨document, hd, read⟩

/-- Every rendered object of a built-in template lands where the namespace is read to. -/
theorem landsIn_of_render (fillable : Fillable v) (plain : IsBuiltIn source) :
    ∀ name ∈ Template.creationOrder, ∀ documents, source.render name v = .ok documents →
      ∀ j ∈ documents, LandsIn v.namespaceName j := by
  have named : v.namespaceName ≠ "" := by
    intro empty
    obtain ⟨c, hc, -⟩ := fillable.namespaceName.first
    rw [empty] at hc
    cases hc
  have lands : ∀ m ∈ builtInKinds, ∀ d j, IsHeaded m v.namespaceName d → d.toJson? = some j →
      LandsIn v.namespaceName j := fun m hm d j headed read =>
    ⟨m, hm, headed.object hm named read⟩
  intro name hname documents rendered j hj
  simp only [Template.creationOrder, List.mem_cons, List.not_mem_nil, or_false] at hname
  rcases hname with rfl | rfl | rfl
  · obtain ⟨d, hd, read⟩ := mem_of_render (plain _ (by decide)) rfl rendered j hj
    obtain ⟨d', same, headed⟩ := Template.documents_experiment fillable
    rw [same] at hd
    simp only [List.mem_cons, List.not_mem_nil, or_false, Option.some.injEq] at hd
    subst hd
    exact lands _ (by decide) d j headed read
  · obtain ⟨d, hd, read⟩ := mem_of_render (plain _ (by decide)) rfl rendered j hj
    obtain ⟨a, r, b, same, account, role, binding⟩ := Template.documents_account fillable
    rw [same] at hd
    simp only [List.mem_cons, List.not_mem_nil, or_false, Option.some.injEq] at hd
    rcases hd with rfl | rfl | rfl
    · exact lands _ (by decide) d j account read
    · exact lands _ (by decide) d j role read
    · exact lands _ (by decide) d j binding read
  · obtain ⟨d, hd, read⟩ := mem_of_render (plain _ (by decide)) rfl rendered j hj
    rcases Template.documents_engine fillable with ⟨d', same, headed⟩ | bad
    · rw [same] at hd
      simp only [List.mem_cons, List.not_mem_nil, or_false, Option.some.injEq] at hd
      subst hd
      exact lands _ (by decide) d j headed read
    · rw [bad] at hd
      simp at hd

def KeepsInNamespaces (c : ScriptedCluster) (kind : String) : Prop :=
  ∃ m ∈ builtInKinds, m.kind = kind ∧
    ∃ served, Dict.find? c.kinds (m.apiVersion, kind) = some served ∧ served.namespaced = true

theorem builtInKinds_unique : ∀ m ∈ builtInKinds, ∀ m' ∈ builtInKinds, m.kind = m'.kind →
    m.apiVersion = m'.apiVersion := by
  decide +kernel

/-- A created object is in the namespace of its document, if its kind has namespaces. -/
theorem objectOf_lands_iff {c : ScriptedCluster} {ns : String} {d : Json} (lands : LandsIn ns d)
    {served : Mapping}
    (found : Dict.find? c.kinds (textAt d ["apiVersion"], textAt d ["kind"]) = some served) :
    (objectOf served d).namespaceName = some ns ↔
      KeepsInNamespaces c (objectOf served d).kind ∧ isReadAsText ns = true := by
  obtain ⟨m, hm, apiVersion, kind, place⟩ := lands
  rw [apiVersion, kind] at found
  have keeps : KeepsInNamespaces c m.kind ↔ served.namespaced = true := by
    constructor
    · rintro ⟨m', hm', same, served', found', namespaced⟩
      rw [builtInKinds_unique m' hm' m hm same, found] at found'
      rw [Option.some.inj found']
      exact namespaced
    · exact fun namespaced => ⟨m, hm, rfl, served, found, namespaced⟩
  simp only [objectOf, kind, place, keeps, ← Template.landing_eq_iff]
  by_cases namespaced : served.namespaced = true
  · simp [namespaced]
  · simp [namespaced]

theorem kindName_quotable (k : WorkloadKind) :
    ∀ c ∈ k.name.toList, Yaml.isQuotable c = true ∧ Yaml.isAllowed c = true := by
  cases k <;> decide

/-- With the built-in templates, a created object has the namespace of its target, as reported and
in the store, exactly if the cluster keeps its kind in namespaces and the name of the namespace is
read as a text. -/
theorem apply_lands_iff {target : FaultTarget} (plain : IsBuiltIn source)
    (label : Template.IsDnsLabel target.workload.namespaceName)
    (selector : ∀ c ∈ target.appLabel.toList, c ≠ '"' ∧ c ≠ '\\' ∧ c ≠ '{')
    (s : Timed (Stage ScriptedCluster)) (own : s.state.cluster.OwnNames) :
    ∀ o ∈ (apply client source target s).1.1,
      (o.namespaceName = some target.workload.namespaceName ∧
        ((apply client source target s).2.state.cluster.object?
          ⟨o.kind, some target.workload.namespaceName, o.name⟩).isSome) ↔
      KeepsInNamespaces s.state.cluster o.kind ∧
        isReadAsText target.workload.namespaceName = true := by
  have fillable : Fillable target.templateValues :=
    ⟨label, selector, kindName_quotable target.workload.kind⟩
  intro o ho
  obtain ⟨-, stored⟩ := apply_adds (landsIn_of_render fillable plain) s rfl own
    (fun _ h => by cases h)
  obtain ⟨⟨object, held⟩, d, served, lands, rfl, found⟩ := stored o ho
  change LandsIn target.workload.namespaceName d at lands
  rw [← objectOf_lands_iff (c := s.state.cluster) lands found]
  constructor
  · exact And.left
  · intro here
    refine ⟨here, ?_⟩
    rw [← here]
    exact Option.isSome_iff_exists.2 ⟨object, held⟩

def plainTemplates : TemplateSource := ⟨⟨[]⟩, none⟩

def targetIn (ns : String) : FaultTarget := ⟨⟨ns, "web", .deployment⟩, "app=web"⟩

theorem selector_quotable : ∀ c ∈ "app=web".toList, c ≠ '"' ∧ c ≠ '\\' ∧ c ≠ '{' := by decide

theorem targetIn_fillable {ns : String} (label : Template.IsDnsLabel ns) :
    Fillable (targetIn ns).templateValues :=
  ⟨label, selector_quotable, kindName_quotable _⟩

/-- In an empty store an object is created if its kind is served. -/
theorem createDocument_empty {d : Json} {m : Mapping} {s : Timed (Stage ScriptedCluster)}
    (found : Dict.find? s.state.cluster.kinds (textAt d ["apiVersion"], textAt d ["kind"]) = some m)
    (free : s.state.cluster.createFailures = []) (empty : s.state.cluster.objects = []) :
    (createDocument client d s).1 = .ok (objectOf m d) := by
  have resolved : Scenario.perform client
      (.resolve (textAt d ["apiVersion"]) (textAt d ["kind"])) s = (.ok m, ⟨s.clock, ⟨s.state.cluster.record
        (.resolve (textAt d ["apiVersion"]) (textAt d ["kind"])), s.state.reports⟩⟩) := by
    refine Prod.ext ?_ rfl
    change (s.state.cluster.record _).resolve _ _ = _
    simp only [ScriptedCluster.resolve, ScriptedCluster.record, found]
    rfl
  have made : ∃ after, Scenario.perform client (.create m (objectOf m d).namespaceName
      ((objectOf m d).namespaceName.elim d (withNamespace d))) ⟨s.clock, ⟨s.state.cluster.record
        (.resolve (textAt d ["apiVersion"]) (textAt d ["kind"])), s.state.reports⟩⟩ =
          (.ok (), after) := by
    refine ⟨_, Prod.ext ?_ rfl⟩
    change (((s.state.cluster.record _).record _).create m _ _).1 = _
    simp only [ScriptedCluster.create, ScriptedCluster.record, free, empty]
    rfl
  obtain ⟨after, made⟩ := made
  simp only [objectOf] at made
  simp only [createDocument, bind, StateT.bind, resolved, made]
  rfl

/-- What the first document of the first template gives is created, whatever follows it. -/
theorem mem_applyTemplates {name : String} {names : List String} {d : Json} {ds : List Json}
    (rendered : source.render name v = .ok (d :: ds)) {s : Timed (Stage ScriptedCluster)}
    {o : CreatedObject} (created : (createDocument client d s).1 = .ok o) :
    o ∈ (applyTemplates client source v (name :: names) s).1.1 := by
  simp only [applyTemplates, rendered, createDocuments, bind, StateT.bind]
  generalize createDocument client d s = answered at created
  obtain ⟨result, after⟩ := answered
  obtain rfl : result = .ok o := created
  dsimp only [StateT.bind, bind]
  generalize createDocuments client ds after = others
  obtain ⟨⟨objects, result⟩, last⟩ := others
  cases result with
  | error e => exact List.mem_cons_self
  | ok u => exact List.mem_cons_self

/-- The experiment of a target is created, where its namespace is read to, if its document has a
value that is an object. -/
theorem experiment_created {ns : String} (label : Template.IsDnsLabel ns)
    (valued : ∃ d, Yaml.documents ((targetIn ns).templateValues.substitute
      (Template.ofLines Template.experimentLines)) = [some d] ∧
      (checkDocuments Template.experiment 0 [d.toJson?]).toOption.any (·.length == 1) = true) :
    ∃ o ∈ (apply client plainTemplates (targetIn ns) emptyStage).1.1,
      KeepsInNamespaces emptyStage.state.cluster o.kind ∧ o.namespaceName = some (landing ns) := by
  obtain ⟨d, same, checked⟩ := valued
  have decoded : plainTemplates.render Template.experiment (targetIn ns).templateValues =
      (checkDocuments Template.experiment 0 [d.toJson?]).mapError .object := by
    have found : Dict.find? Template.builtIn Template.experiment =
      some Template.experimentLines := rfl
    rw [render_builtIn rfl found, decodeDocuments, Yaml.values, same]
    rfl
  cases result : checkDocuments Template.experiment 0 [d.toJson?] with
  | error e =>
    rw [result] at checked
    cases checked
  | ok js =>
    rw [result] at checked decoded
    obtain ⟨j, rfl⟩ := List.length_eq_one_iff.1 (beq_iff_eq.1 checked)
    have plain : IsBuiltIn plainTemplates := fun _ _ => rfl
    obtain ⟨m, hm, apiVersion, kind, place⟩ := landsIn_of_render (targetIn_fillable label) plain
      Template.experiment (by decide) [j] decoded j List.mem_cons_self
    have served : ∀ m ∈ builtInKinds, Dict.find? emptyStage.state.cluster.kinds
        (m.apiVersion, m.kind) = some m ∧ m.namespaced = true := by
      decide +kernel
    obtain ⟨found, namespaced⟩ := served m hm
    rw [← apiVersion, ← kind] at found
    have created := createDocument_empty (s := emptyStage) found rfl rfl
    have first : objectOf m j ∈
        (apply client plainTemplates (targetIn ns) emptyStage).1.1 := by
      rw [apply, Template.creationOrder]
      exact mem_applyTemplates decoded created
    have keeps : KeepsInNamespaces emptyStage.state.cluster (objectOf m j).kind :=
      ⟨m, hm, kind.symm, m, by rw [← apiVersion]; exact found, namespaced⟩
    refine ⟨objectOf m j, first, keeps, ?_⟩
    rw [objectOf, namespaced, place]
    rfl

set_option maxRecDepth 20000 in
theorem shop_valued : ∃ d, Yaml.documents ((targetIn "shop").templateValues.substitute
    (Template.ofLines Template.experimentLines)) = [some d] ∧
    (checkDocuments Template.experiment 0 [d.toJson?]).toOption.any (·.length == 1) = true := by
  refine ⟨_, Template.documents_of_tokens (Template.tokens_experiment
    (targetIn_fillable (by decide))) (by cbv), ?_⟩
  decide +kernel

set_option maxRecDepth 20000 in
theorem number_valued : ∃ d, Yaml.documents ((targetIn "123").templateValues.substitute
    (Template.ofLines Template.experimentLines)) = [some d] ∧
    (checkDocuments Template.experiment 0 [d.toJson?]).toOption.any (·.length == 1) = true := by
  refine ⟨_, Template.documents_of_tokens (Template.tokens_experiment
    (targetIn_fillable (by decide))) (by cbv), ?_⟩
  decide +kernel

theorem apply_lands_shop :
    IsBuiltIn plainTemplates ∧ Template.IsDnsLabel "shop" ∧ emptyStage.state.cluster.OwnNames ∧
      ∃ o ∈ (apply client plainTemplates (targetIn "shop") emptyStage).1.1,
        o.namespaceName = some "shop" := by
  have plain : IsBuiltIn plainTemplates := fun _ _ => rfl
  have label : Template.IsDnsLabel "shop" := by decide
  have own : emptyStage.state.cluster.OwnNames := ScriptedCluster.ownNames_initial
  obtain ⟨o, created, keeps, -⟩ := experiment_created label shop_valued
  refine ⟨plain, label, own, o, created, ?_⟩
  have lands := @apply_lands_iff plainTemplates (targetIn "shop") plain label selector_quotable
    emptyStage own o created
  exact (lands.2 ⟨keeps, by decide +kernel⟩).1

theorem apply_may_miss_namespace :
    ¬ ∀ (source : TemplateSource) (target : FaultTarget), IsBuiltIn source →
      Template.IsDnsLabel target.workload.namespaceName →
      (∀ c ∈ target.appLabel.toList, c ≠ '"' ∧ c ≠ '\'' ∧ c ≠ '\\' ∧ c ≠ '{' ∧ c ≠ '}') →
      ∀ o ∈ (apply client source target emptyStage).1.1,
        o.namespaceName = some target.workload.namespaceName := by
  intro claimed
  obtain ⟨o, created, -, place⟩ := experiment_created (by decide) number_valued
  have there := claimed plainTemplates (targetIn "123") (fun _ _ => rfl) (by decide) (by decide) o
    created
  rw [place] at there
  exact absurd (Option.some.inj there) (by decide +kernel)

end Fault
end Resilience
