import Resilience.Proofs.Fault.Teardown
import Resilience.Proofs.Scenario.Log
/-! # What is created before a failure

The objects of documents are created one after another, and a template is rendered only when
everything before it was created. Whatever fails, what was created is a prefix of the documents, it
is all that changed in the store, and nothing is asked after the failure.
-/
namespace Resilience

namespace Fault

/-- The documents of templates up to the first that cannot be rendered, and its failure. -/
def rendered (source : TemplateSource) (values : TemplateValues) :
    List String → List Json × Except ScenarioError Unit
  | [] => ([], .ok ())
  | name :: names =>
    match source.render name values with
    | .error e => ([], .error (.setup .template name e.message))
    | .ok documents =>
      (documents ++ (rendered source values names).1, (rendered source values names).2)

theorem rendered_failure {source : TemplateSource} {values : TemplateValues} {names : List String}
    {e : ScenarioError} (failed : (rendered source values names).2 = .error e) :
    ∃ stage subject reason, e = .setup stage subject reason := by
  induction names with
  | nil => cases failed
  | cons name names ih =>
    unfold rendered at failed
    split at failed
    · cases failed
      exact ⟨_, _, _, rfl⟩
    · exact ih failed

theorem hasText_of_render {source : TemplateSource} {values : TemplateValues} {name : String}
    {documents : List Json} (made : source.render name values = .ok documents) :
    ∀ d ∈ documents, ∀ path ∈ requiredPaths, hasText d path = true := by
  obtain ⟨text, -, made⟩ := bind_eq_ok made
  exact fun d hd => (passed_of_checkDocuments (mapError_eq_ok made) d hd).2

theorem hasText_of_rendered {source : TemplateSource} {values : TemplateValues}
    {names : List String} : ∀ d ∈ (rendered source values names).1, ∀ path ∈ requiredPaths,
      hasText d path = true := by
  induction names with
  | nil => simp [rendered]
  | cons name names ih =>
    intro d hd
    unfold rendered at hd
    cases made : source.render name values with
    | error e =>
      rw [made] at hd
      cases hd
    | ok documents =>
      rw [made] at hd
      rcases List.mem_append.mp hd with hd | hd
      · exact hasText_of_render made d hd
      · exact ih d hd

def lookupOf (document : Json) : Call :=
  .resolve (textAt document ["apiVersion"]) (textAt document ["kind"])

def subjectOf (document : Json) : String :=
  let kind := textAt document ["kind"]
  let name := textAt document ["metadata", "name"]
  s!"{kind} {name}"

/-- A document and how its kind is served. -/
structure Placement where
  document : Json
  mapping : Mapping

namespace Placement

variable (p : Placement)

def created : CreatedObject := objectOf p.mapping p.document

def object : Json := p.created.namespaceName.elim p.document (withNamespace p.document)

def creation : Call := .create p.mapping p.created.namespaceName p.object

def log : List LogEntry := [⟨lookupOf p.document, .ok p.mapping⟩, ⟨p.creation, .ok ()⟩]

/-- The object is its document, but for the namespace that it was given if its kind lies in
namespaces. -/
def IsFaithful : Prop :=
  match p.created.namespaceName with
  | none => p.mapping.namespaced = false ∧ p.object = p.document
  | some ns => p.mapping.namespaced = true ∧ ∃ members metadata, p.document = .object members ∧
      Dict.find? members "metadata" = some (.object metadata) ∧
      p.object = .object (Dict.insert members "metadata"
        (.object (Dict.insert metadata "namespace" (.string ns))))

theorem isFaithful (h : hasText p.document ["metadata", "name"] = true) : p.IsFaithful := by
  obtain ⟨document, mapping⟩ := p
  cases kept : mapping.namespaced with
  | false => simp [IsFaithful, created, object, objectOf, kept]
  | true =>
    cases document with
    | object members =>
      cases found : Dict.find? members "metadata" with
      | none => simp [hasText, Json.at?, found] at h
      | some metadata =>
        cases metadata with
        | object inner =>
          simp [IsFaithful, created, object, objectOf, kept, withNamespace, Json.setMember, found]
        | _ => simp [hasText, Json.at?, found, Json.member?] at h
    | _ => simp [hasText, Json.at?, Json.member?] at h

end Placement

/-- How the creation of objects ends with these documents left, by these calls and with this
result. No call follows on one that failed. -/
inductive Stops (final : Except ScenarioError Unit) :
    List Json → List LogEntry → Except ScenarioError Unit → Prop
  | done : Stops final [] [] final
  | unserved (d : Json) (ds : List Json) (e : ClusterError) :
      Stops final (d :: ds) [⟨lookupOf d, .error e⟩]
        (.error (.setup .discovery (subjectOf d) e.message))
  | refused (p : Placement) (ds : List Json) (e : ClusterError) :
      Stops final (p.document :: ds) [⟨lookupOf p.document, .ok p.mapping⟩, ⟨p.creation, .error e⟩]
        (.error (.setup .create (subjectOf p.document) e.message))

inductive Creates (final : Except ScenarioError Unit) :
    List Json → List Placement → List LogEntry → Except ScenarioError Unit → Prop
  | stop {left : List Json} {log : List LogEntry} {result : Except ScenarioError Unit}
      (h : Stops final left log result) : Creates final left [] log result
  | next (p : Placement) {ds : List Json} {placed : List Placement} {log : List LogEntry}
      {result : Except ScenarioError Unit} (rest : Creates final ds placed log result) :
      Creates final (p.document :: ds) (p :: placed) (p.log ++ log) result

namespace Creates

variable {final result result' : Except ScenarioError Unit} {ds es : List Json}
  {placed placed' : List Placement} {log log' : List LogEntry}

theorem append (h : Creates (.ok ()) ds placed log result') (done : result' = .ok ())
    (k : Creates final es placed' log' result) :
    Creates final (ds ++ es) (placed ++ placed') (log ++ log') result := by
  -- the first run came to the end of its documents, since only then it ends well
  induction h with
  | stop h =>
    cases h with
    | done => exact k
    | unserved | refused => cases done
  | next p _ ih =>
    rw [List.append_assoc]
    exact .next p (ih done)

theorem append_of_error {e : ScenarioError} (h : Creates (.ok ()) ds placed log result')
    (failed : result' = .error e) (es : List Json) :
    Creates final (ds ++ es) placed log (.error e) := by
  induction h with
  | stop h =>
    cases h with
    | done => cases failed
    | unserved d ds e =>
      cases failed
      exact .stop (.unserved d _ e)
    | refused p ds e =>
      cases failed
      exact .stop (.refused p _ e)
  | next p _ ih => exact .next p (ih failed)

/-- What was created is a prefix of the documents, and the log ends where it stopped. -/
theorem exists_left (h : Creates final ds placed log result) :
    ∃ left last, ds = placed.map Placement.document ++ left ∧
      log = placed.flatMap Placement.log ++ last ∧ Stops final left last result := by
  induction h with
  | stop h => exact ⟨_, _, rfl, rfl, h⟩
  | next p _ ih =>
    obtain ⟨left, last, rfl, rfl, stops⟩ := ih
    refine ⟨left, last, rfl, ?_, stops⟩
    rw [List.flatMap_cons, List.append_assoc]

end Creates

theorem Stops.failure {final result : Except ScenarioError Unit} {left : List Json}
    {last : List LogEntry} (h : Stops final left last result) :
    result = final ∨ ∃ stage subject reason, result = .error (.setup stage subject reason) := by
  cases h with
  | done => exact .inl rfl
  | unserved | refused => exact .inr ⟨_, _, _, rfl⟩

theorem Stops.ok_iff {final result : Except ScenarioError Unit} {left : List Json}
    {last : List LogEntry} (h : Stops final left last result) :
    result = .ok () ↔ left = [] ∧ final = .ok () := by
  cases h with
  | done => simp
  | unserved | refused => simp

section Runs

variable {σ : Type} (client : Client σ)

theorem createDocument_logs (document : Json) :
    Logs client (createDocument client document) fun r log =>
      match r with
      | .ok created => ∃ p : Placement, p.document = document ∧ created = p.created ∧ log = p.log
      | .error e => ∀ final ds, Stops final (document :: ds) log (.error e) := by
  apply Logs.perform_bind
  rintro (e | mapping)
  · exact Logs.pure fun final ds => .unserved document ds e
  · apply Logs.perform_bind
    rintro (e | u)
    · exact Logs.pure fun final ds => .refused ⟨document, mapping⟩ ds e
    · exact Logs.pure ⟨⟨document, mapping⟩, rfl, rfl, rfl⟩

def CreatesAs (final : Except ScenarioError Unit) (documents : List Json)
    (r : List CreatedObject × Except ScenarioError Unit) (log : List LogEntry) : Prop :=
  ∃ placed, r.1 = placed.map Placement.created ∧ Creates final documents placed log r.2

theorem createDocuments_logs (documents : List Json) :
    Logs client (createDocuments client documents) (CreatesAs (.ok ()) documents) := by
  induction documents with
  | nil => exact Logs.pure ⟨[], rfl, .stop .done⟩
  | cons d ds ih =>
    apply (createDocument_logs client d).bind
    rintro (e | object) first fit
    · refine Logs.pure ⟨[], rfl, .stop ?_⟩
      rw [List.append_nil]
      exact fit _ ds
    · obtain ⟨p, rfl, rfl, rfl⟩ := fit
      apply ih.bind_pure
      rintro ⟨objects, result⟩ log ⟨placed, rfl, creates⟩
      exact ⟨p :: placed, rfl, .next p creates⟩

theorem applyTemplates_logs (source : TemplateSource) (values : TemplateValues)
    (names : List String) :
    Logs client (applyTemplates client source values names)
      (CreatesAs (rendered source values names).2 (rendered source values names).1) := by
  induction names with
  | nil => exact Logs.pure ⟨[], rfl, .stop .done⟩
  | cons name names ih =>
    unfold applyTemplates rendered
    cases source.render name values with
    | error e => exact Logs.pure ⟨[], rfl, .stop .done⟩
    | ok documents =>
      apply (createDocuments_logs client documents).bind
      rintro ⟨objects, e | u⟩ first ⟨placed, rfl, creates⟩
      · refine Logs.pure ⟨placed, rfl, ?_⟩
        rw [List.append_nil]
        exact creates.append_of_error rfl _
      · apply ih.bind_pure
        rintro ⟨more, result⟩ log ⟨placed', rfl, creates'⟩
        exact ⟨placed ++ placed', List.map_append.symm, creates.append rfl creates'⟩

end Runs

open ScriptedCluster (client)

structure Stores (placed : List Placement) (before after : ScriptedCluster) : Prop where
  served : ∀ p ∈ placed, Dict.find? before.kinds
    (textAt p.document ["apiVersion"], textAt p.document ["kind"]) = some p.mapping
  distinct : (placed.map fun p => p.created.key).Nodup
  fresh : ∀ p ∈ placed, before.object? p.created.key = none
  held : ∀ p ∈ placed, after.object? p.created.key = some p.object
  frame : ∀ key, key ∉ placed.map (fun p => p.created.key) →
    after.object? key = before.object? key

theorem Stores.kept {placed : List Placement} {before after : ScriptedCluster}
    (h : Stores placed before after) {key : ObjectKey} {object : Json}
    (there : before.object? key = some object) : after.object? key = some object := by
  rw [h.frame key, there]
  intro again
  obtain ⟨p, hp, rfl⟩ := List.mem_map.mp again
  rw [h.fresh p hp] at there
  cases there

theorem object?_eq_of_stops {final result : Except ScenarioError Unit} {left : List Json}
    {last : List LogEntry} (h : Stops final left last result) {c c' : ScriptedCluster}
    (answered : client.Answers c last c') (key : ObjectKey) : c'.object? key = c.object? key := by
  cases h with
  | done =>
    cases answered
    rfl
  | unserved d ds e =>
    obtain ⟨-, answered⟩ := answered.cons_inv
    cases answered
    rfl
  | refused p ds e =>
    obtain ⟨-, answered⟩ := answered.cons_inv
    obtain ⟨reply, answered⟩ := answered.cons_inv
    cases answered
    rcases ScriptedCluster.create_cases p.mapping p.created.namespaceName p.object
      (client.perform (lookupOf p.document) c).2 with ⟨e, performed⟩ | ⟨-, performed⟩
    · change (client.perform (.create _ _ _) _).2.object? key = _
      rw [performed]
      rfl
    · change (client.perform (.create _ _ _) _).1 = _ at reply
      rw [performed] at reply
      cases reply

structure Placement.Made (p : Placement) (before after : ScriptedCluster) : Prop where
  setup : ScriptedCluster.SameSetup before after
  served : Dict.find? before.kinds
    (textAt p.document ["apiVersion"], textAt p.document ["kind"]) = some p.mapping
  fresh : before.object? p.created.key = none
  changed : ∀ key, after.object? key =
    if key = p.created.key then some p.object else before.object? key

/-- The store goes by the kind that was resolved, the report by the kind in the document. -/
theorem placed_key {p : Placement} {c : ScriptedCluster} (own : c.OwnNames)
    (resolved : (client.perform (lookupOf p.document) c).1 = .ok p.mapping) :
    (⟨p.mapping.kind, p.created.namespaceName, objectName p.object⟩ : ObjectKey) =
      p.created.key := by
  rw [Placement.object, objectName_placed, ScriptedCluster.resolve_kind own resolved]
  rfl

theorem made_of_answers {p : Placement} {log : List LogEntry} {c c' : ScriptedCluster}
    (own : c.OwnNames) (answered : client.Answers c (p.log ++ log) c') :
    ∃ c₂, p.Made c c₂ ∧ client.Answers c₂ log c' := by
  obtain ⟨resolved, answered⟩ := answered.cons_inv
  obtain ⟨created, answered⟩ := answered.cons_inv
  refine ⟨_, ?_, answered⟩
  let c₁ := (client.perform (lookupOf p.document) c).2
  have setup : ScriptedCluster.SameSetup c (client.perform p.creation c₁).2 := IsTrans.trans _ _ _
    (ScriptedCluster.sameSetup_perform (lookupOf p.document) c)
    (ScriptedCluster.sameSetup_perform p.creation c₁)
  rcases ScriptedCluster.create_cases p.mapping p.created.namespaceName p.object c₁ with
    ⟨e, performed⟩ | ⟨free, performed⟩
  · change (client.perform (.create _ _ _) c₁).1 = _ at created
    rw [performed] at created
    cases created
  · rw [placed_key own resolved] at free performed
    have after : (client.perform p.creation c₁).2 = _ := congrArg Prod.snd performed
    refine ⟨setup, ScriptedCluster.resolve_found resolved, free, fun k => ?_⟩
    change (client.perform p.creation c₁).2.object? k = _
    rw [after]
    by_cases same : k = p.created.key
    · rw [if_pos same, same]
      exact Dict.find?_insert_self _ _ _
    · rw [if_neg same]
      exact Dict.find?_insert_of_ne _ _ same

theorem Placement.Made.cons {p : Placement} {placed : List Placement} {c c₂ c' : ScriptedCluster}
    (first : p.Made c c₂) (later : Stores placed c₂ c') : Stores (p :: placed) c c' := by
  -- what is created later does not lie at this place, where there is something by then
  have apart : ∀ q ∈ placed, q.created.key ≠ p.created.key := by
    intro q hq same
    have fresh := later.fresh q hq
    rw [first.changed, if_pos same] at fresh
    cases fresh
  have new : p.created.key ∉ placed.map fun q => q.created.key := by
    intro again
    obtain ⟨q, hq, same⟩ := List.mem_map.mp again
    exact apart q hq same
  constructor
  case served =>
    intro q hq
    rcases List.mem_cons.mp hq with rfl | hq
    · exact first.served
    · rw [← first.setup.kinds]
      exact later.served q hq
  case distinct => exact List.nodup_cons.mpr ⟨new, later.distinct⟩
  case fresh =>
    intro q hq
    rcases List.mem_cons.mp hq with rfl | hq
    · exact first.fresh
    · rw [← later.fresh q hq, first.changed, if_neg (apart q hq)]
  case held =>
    intro q hq
    rcases List.mem_cons.mp hq with rfl | hq
    · rw [later.frame _ new, first.changed, if_pos rfl]
    · exact later.held q hq
  case frame =>
    intro k outside
    rw [List.map_cons, List.mem_cons, not_or] at outside
    rw [later.frame k outside.2, first.changed, if_neg outside.1]

theorem Creates.stores {final result : Except ScenarioError Unit} {ds : List Json}
    {placed : List Placement} {log : List LogEntry} (h : Creates final ds placed log result)
    {c c' : ScriptedCluster} (own : c.OwnNames) (answered : client.Answers c log c') :
    Stores placed c c' := by
  induction h generalizing c with
  | stop h =>
    exact ⟨by simp, List.nodup_nil, by simp, by simp, fun key _ =>
      object?_eq_of_stops h answered key⟩
  | next p _ ih =>
    obtain ⟨c₂, first, answered⟩ := made_of_answers own answered
    exact first.cons (ih (first.setup.ownNames own) answered)

/-- What a creation of objects leaves: these placements were made, these documents are left, and
these calls came last. -/
structure CreatedPrefix (wanted : List Json × Except ScenarioError Unit)
    (before after : ScriptedCluster) (r : List CreatedObject × Except ScenarioError Unit)
    (placed : List Placement) (left : List Json) (last : List LogEntry) : Prop where
  documents : wanted.1 = placed.map Placement.document ++ left
  created : r.1 = placed.map Placement.created
  all : r.2 = .ok () ↔ left = [] ∧ wanted.2 = .ok ()
  stores : Stores placed before after
  kept : ∀ key object, before.object? key = some object → after.object? key = some object
  faithful : ∀ p ∈ placed, p.IsFaithful
  answers : client.Answers before (placed.flatMap Placement.log ++ last) after
  calls : after.calls = before.calls ++ (placed.flatMap Placement.log ++ last).map LogEntry.call
  stops : Stops wanted.2 left last r.2

/-- Whatever fails, the objects of a prefix of the documents were created, all of them if nothing
failed. They are reported in this order, each is a faithful copy in its place, nothing else has
changed in the store, and the failure ends the calls. -/
theorem apply_creates_prefix (source : TemplateSource) (target : FaultTarget)
    (s : Timed (Stage ScriptedCluster)) (own : s.state.cluster.OwnNames) :
    ∃ placed left last,
      CreatedPrefix (rendered source target.templateValues Template.creationOrder)
        s.state.cluster (apply client source target s).2.state.cluster
        (apply client source target s).1 placed left last := by
  obtain ⟨log, answered, -, placed, created, creates⟩ :=
    applyTemplates_logs client source target.templateValues Template.creationOrder s
  obtain ⟨left, last, documents, rfl, stops⟩ := creates.exists_left
  have stores := creates.stores own answered
  have faithful : ∀ p ∈ placed, p.IsFaithful := by
    intro p hp
    have there : p.document ∈
        (rendered source target.templateValues Template.creationOrder).1 := by
      rw [documents]
      exact List.mem_append_left _ (List.mem_map_of_mem hp)
    exact p.isFaithful (hasText_of_rendered p.document there _ (by simp [requiredPaths]))
  exact ⟨placed, left, last, documents, created, stops.ok_iff, stores, fun _ _ => stores.kept,
    faithful, answered, ScriptedCluster.calls_of_answers answered, stops⟩

/-- The second of these templates cannot be rendered, by when the object of the first is there. -/
theorem apply_creates_strayAccount :
    emptyStage.state.cluster.OwnNames ∧
      (apply client strayTemplates plainTarget emptyStage).1.1 = [strayAccount] ∧
      ∃ placed left last,
        CreatedPrefix (rendered strayTemplates plainTarget.templateValues Template.creationOrder)
          emptyStage.state.cluster
          (apply client strayTemplates plainTarget emptyStage).2.state.cluster
          (apply client strayTemplates plainTarget emptyStage).1 placed left last := by
  have own : emptyStage.state.cluster.OwnNames := ScriptedCluster.ownNames_initial
  refine ⟨own, ?_, apply_creates_prefix strayTemplates plainTarget emptyStage own⟩
  decide +kernel

end Fault
end Resilience
