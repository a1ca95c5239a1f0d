import Resilience.Proofs.Fault.Prefix
/-! # Documents that were decoded

Decoding gives the objects of a stream or names its first bad document. A document that passed has
its version, its kind and its name as texts and its metadata as members, so that creating its
object never looks for something that is not there.
-/
namespace Resilience

/-- A value with another one put at the end of a path. On the way null gives way to members, and
nothing can be put below any other value that has none. -/
def Json.put? (value : Json) : List String → Json → Option Json
  | [], _ => some value
  | key :: path, .null => (put? value path .null).map fun inner => .object [(key, inner)]
  | key :: path, .object members =>
    (put? value path ((Dict.find? members key).getD .null)).map fun inner =>
      .object (Dict.insert members key inner)
  | _ :: _, _ => none

def Json.textAt? (j : Json) (path : List String) : Option String := (j.at? path).bind Json.string?

/-- An object with metadata that is one, too, and these texts as its version, its kind and its
name. -/
def IsManifest (d : Json) (apiVersion kind name : String) : Prop :=
  ∃ members metadata, d = .object members ∧
    Dict.find? members "apiVersion" = some (.string apiVersion) ∧
    Dict.find? members "kind" = some (.string kind) ∧
    Dict.find? members "metadata" = some (.object metadata) ∧
    Dict.find? metadata "name" = some (.string name)

theorem Json.member?_eq_some {j i : Json} {key : String} (found : j.member? key = some i) :
    ∃ members, j = .object members ∧ Dict.find? members key = some i := by
  cases j with
  | object members => exact ⟨members, rfl, found⟩
  | _ => cases found

theorem hasText_iff {d : Json} {path : List String} :
    hasText d path = true ↔ ∃ text, d.textAt? path = some text := Option.isSome_iff_exists

theorem at?_of_textAt? {d : Json} {path : List String} {text : String}
    (h : d.textAt? path = some text) : d.at? path = some (.string text) := by
  obtain ⟨j, found, spelled⟩ := Option.bind_eq_some_iff.mp h
  cases j with
  | string s =>
    cases spelled
    exact found
  | _ => cases spelled

namespace IsManifest

variable {d : Json} {apiVersion kind name : String}

theorem textAt? (h : IsManifest d apiVersion kind name) :
    d.textAt? ["apiVersion"] = some apiVersion ∧ d.textAt? ["kind"] = some kind ∧
      d.textAt? ["metadata", "name"] = some name := by
  obtain ⟨members, metadata, rfl, version, kind, inner, name⟩ := h
  simp [Json.textAt?, version, kind, inner, name, Json.string?]

/-- What passed the check is a manifest. -/
theorem of_hasText (complete : ∀ path ∈ requiredPaths, hasText d path = true) :
    ∃ apiVersion kind name, IsManifest d apiVersion kind name := by
  have given : ∀ path ∈ requiredPaths, ∃ text, d.at? path = some (.string text) := by
    intro path hp
    obtain ⟨text, found⟩ := hasText_iff.mp (complete path hp)
    exact ⟨text, at?_of_textAt? found⟩
  obtain ⟨apiVersion, version⟩ := given ["apiVersion"] (by simp [requiredPaths])
  obtain ⟨kind, kindFound⟩ := given ["kind"] (by simp [requiredPaths])
  obtain ⟨name, nameFound⟩ := given ["metadata", "name"] (by simp [requiredPaths])
  simp only [Json.at?_cons, Json.at?_nil, Option.bind_fun_some] at version kindFound nameFound
  obtain ⟨inner, outer, named⟩ := Option.bind_eq_some_iff.mp nameFound
  obtain ⟨members, rfl, outer⟩ := Json.member?_eq_some outer
  obtain ⟨metadata, rfl, named⟩ := Json.member?_eq_some named
  exact ⟨apiVersion, kind, name, members, metadata, rfl, version, kindFound, outer, named⟩

theorem hasText (h : IsManifest d apiVersion kind name) :
    ∀ path ∈ requiredPaths, hasText d path = true := by
  obtain ⟨version, kind, name⟩ := h.textAt?
  intro path hp
  apply hasText_iff.mpr
  simp only [requiredPaths, List.mem_cons, List.not_mem_nil, or_false] at hp
  rcases hp with rfl | rfl | rfl
  · exact ⟨_, version⟩
  · exact ⟨_, kind⟩
  · exact ⟨_, name⟩

theorem put? (h : IsManifest d apiVersion kind name) (ns : String) :
    Json.put? (.string ns) ["metadata", "namespace"] d = some (Fault.withNamespace d ns) := by
  obtain ⟨members, metadata, rfl, -, -, inner, -⟩ := h
  simp [Json.put?, Fault.withNamespace, Json.setMember, inner]

end IsManifest

/-! ## Decoding -/

/-- The document is empty, or a manifest. -/
def IsAcceptable (document : Option Json) : Prop :=
  document = some .null ∨ ∃ d apiVersion kind name, document = some d ∧
    IsManifest d apiVersion kind name

inductive Complaint (source : String) (index : Nat) : Option Json → ObjectError → Prop
  | unread : Complaint source index none (.document source index)
  | missing {value : Json} {before after : List (List String)} {path : List String}
      (filled : value ≠ .null) (required : requiredPaths = before ++ path :: after)
      (there : ∀ p ∈ before, hasText value p = true) (absent : hasText value path = false) :
      Complaint source index (some value)
        (.missingField s!"{source} document {index}" (".".intercalate path))

def objectsOf (documents : List (Option Json)) : List Json :=
  documents.filterMap (Option.filter (!·.isNull))

theorem isNull_iff {j : Json} : j.isNull = true ↔ j = .null := by
  cases j <;> simp [Json.isNull]

variable {source : String} {index : Nat} {documents : List (Option Json)}

theorem checkDocument_missing {value : Json} {before after : List (List String)}
    {path : List String} (required : requiredPaths = before ++ path :: after)
    (there : ∀ p ∈ before, hasText value p = true) (absent : hasText value path = false) :
    checkDocument source index value =
      .error (.missingField s!"{source} document {index}" (".".intercalate path)) := by
  have none : before.find? (fun path => !hasText value path) = none := by
    rw [List.find?_eq_none]
    intro p hp
    simp [there p hp]
  rw [checkDocument, required, List.find?_append, none, Option.none_or, List.find?_cons_of_pos]
  simp [absent]

theorem checkDocument_complete {value : Json}
    (complete : ∀ path ∈ requiredPaths, hasText value path = true) :
    checkDocument source index value = .ok value := by
  have none : requiredPaths.find? (fun path => !hasText value path) = none := by
    rw [List.find?_eq_none]
    intro p hp
    simp [complete p hp]
  rw [checkDocument, none]

theorem acceptable_or_complaint (source : String) (index : Nat) (document : Option Json) :
    IsAcceptable document ∨ ∃ e, Complaint source index document e := by
  cases document with
  | none => exact .inr ⟨_, .unread⟩
  | some value =>
    by_cases null : value = .null
    · exact .inl (.inl (congrArg some null))
    · cases first : requiredPaths.find? fun path => !hasText value path with
      | none =>
        have complete : ∀ path ∈ requiredPaths, hasText value path = true := by
          intro path hp
          simpa using List.find?_eq_none.mp first path hp
        obtain ⟨apiVersion, kind, name, manifest⟩ := IsManifest.of_hasText complete
        exact .inl (.inr ⟨value, apiVersion, kind, name, rfl, manifest⟩)
      | some path =>
        obtain ⟨absent, before, after, required, there⟩ := List.find?_eq_some_iff_append.mp first
        refine .inr ⟨_, .missing null required ?_ (by simpa using absent)⟩
        intro p hp
        simpa using there p hp

theorem checkDocuments_of_complaint {document : Option Json} {e : ObjectError}
    (h : Complaint source index document e) :
    checkDocuments source index (document :: documents) = .error e := by
  cases h with
  | unread => rfl
  | missing filled required there absent =>
    rw [checkDocuments, if_neg (mt isNull_iff.mp filled),
      checkDocument_missing required there absent]
    rfl

theorem checkDocuments_of_acceptable {document : Option Json} (h : IsAcceptable document) :
    checkDocuments source index (document :: documents) =
      (checkDocuments source (index + 1) documents).map (objectsOf [document] ++ ·) := by
  rcases h with rfl | ⟨d, apiVersion, kind, name, rfl, manifest⟩
  · have skipped : checkDocuments source index (some .null :: documents) =
        checkDocuments source (index + 1) documents := rfl
    rw [skipped]
    cases checkDocuments source (index + 1) documents with
    | error e => rfl
    | ok objects => rfl
  · have filled : d.isNull = false := by
      obtain ⟨members, metadata, rfl, -⟩ := manifest
      rfl
    have kept : objectsOf [some d] = [d] := by simp [objectsOf, Option.filter, filled]
    rw [checkDocuments, filled, if_neg Bool.false_ne_true,
      checkDocument_complete manifest.hasText, kept]
    cases checkDocuments source (index + 1) documents with
    | error e => rfl
    | ok objects => rfl

/-- Acceptable documents add their objects to those of the documents behind them. -/
theorem checkDocuments_append {before : List (Option Json)}
    (acceptable : ∀ document ∈ before, IsAcceptable document) :
    checkDocuments source index (before ++ documents) =
      (checkDocuments source (index + before.length) documents).map (objectsOf before ++ ·) := by
  induction before generalizing index with
  | nil =>
    rw [List.nil_append, List.length_nil, Nat.add_zero]
    cases checkDocuments source index documents with
    | error e => rfl
    | ok objects => rfl
  | cons document before ih =>
    rw [List.forall_mem_cons] at acceptable
    have shift : index + 1 + before.length = index + (document :: before).length := by
      rw [List.length_cons]
      omega
    have objects : objectsOf (document :: before) = objectsOf [document] ++ objectsOf before :=
      List.filterMap_append (l := [document])
    rw [List.cons_append, checkDocuments_of_acceptable acceptable.1, ih acceptable.2, shift,
      objects]
    cases checkDocuments source (index + (document :: before).length) documents with
    | error e => rfl
    | ok later => simp only [Except.map, List.append_assoc]

theorem checkDocuments_of_all (acceptable : ∀ document ∈ documents, IsAcceptable document) :
    checkDocuments source index documents = .ok (objectsOf documents) := by
  have all : checkDocuments source index (documents ++ []) =
      (checkDocuments source (index + documents.length) []).map (objectsOf documents ++ ·) :=
    checkDocuments_append acceptable
  simpa [checkDocuments, Except.map] using all

def IsFirstBad (source : String) (index : Nat) (documents : List (Option Json)) (e : ObjectError) :
    Prop :=
  ∃ before document after, documents = before ++ document :: after ∧
    (∀ earlier ∈ before, IsAcceptable earlier) ∧
    Complaint source (index + before.length) document e

theorem checkDocuments_of_firstBad {e : ObjectError} (h : IsFirstBad source index documents e) :
    checkDocuments source index documents = .error e := by
  obtain ⟨before, document, after, rfl, acceptable, blamed⟩ := h
  rw [checkDocuments_append acceptable, checkDocuments_of_complaint blamed]
  rfl

theorem all_or_firstBad (source : String) (index : Nat) (documents : List (Option Json)) :
    (∀ document ∈ documents, IsAcceptable document) ∨
      ∃ e, IsFirstBad source index documents e := by
  induction documents generalizing index with
  | nil => simp
  | cons document documents ih =>
    rcases acceptable_or_complaint source index document with acceptable | ⟨e, blamed⟩
    · rcases ih (index + 1) with all | ⟨e, before, bad, after, rfl, earlier, blamed⟩
      · exact .inl (List.forall_mem_cons.mpr ⟨acceptable, all⟩)
      · have shift : index + 1 + before.length = index + (document :: before).length := by
          rw [List.length_cons]
          omega
        rw [shift] at blamed
        exact .inr ⟨e, document :: before, bad, after, rfl,
          List.forall_mem_cons.mpr ⟨acceptable, earlier⟩, blamed⟩
    · exact .inr ⟨e, [], document, documents, rfl, by simp, blamed⟩

theorem checkDocuments_ok_iff {objects : List Json} :
    checkDocuments source index documents = .ok objects ↔
      (∀ document ∈ documents, IsAcceptable document) ∧ objects = objectsOf documents := by
  constructor
  · intro decoded
    rcases all_or_firstBad source index documents with all | ⟨e, bad⟩
    · rw [checkDocuments_of_all all] at decoded
      exact ⟨all, (Except.ok.inj decoded).symm⟩
    · rw [checkDocuments_of_firstBad bad] at decoded
      cases decoded
  · rintro ⟨all, rfl⟩
    exact checkDocuments_of_all all

theorem checkDocuments_error_iff {e : ObjectError} :
    checkDocuments source index documents = .error e ↔ IsFirstBad source index documents e := by
  constructor
  · intro failed
    rcases all_or_firstBad source index documents with all | ⟨e', bad⟩
    · rw [checkDocuments_of_all all] at failed
      cases failed
    · rw [checkDocuments_of_firstBad bad] at failed
      cases failed
      exact bad
  · exact checkDocuments_of_firstBad

theorem isManifest_of_mem_objectsOf {d : Json}
    (acceptable : ∀ document ∈ documents, IsAcceptable document) (hd : d ∈ objectsOf documents) :
    ∃ apiVersion kind name, IsManifest d apiVersion kind name := by
  obtain ⟨document, there, kept⟩ := List.mem_filterMap.mp hd
  obtain ⟨rfl, filled⟩ := Option.filter_eq_some_iff.mp kept
  rcases acceptable _ there with empty | ⟨d', apiVersion, kind, name, same, manifest⟩
  · cases empty
    cases filled
  · cases same
    exact ⟨apiVersion, kind, name, manifest⟩

namespace Fault

open ScriptedCluster (client)

/-- Creating the object of a document with nothing in place of what is missing: each text has to be
there, and there has to be a place for the namespace. -/
def createStrictly {σ : Type} (client : Client σ) (document : Json) :
    Scenario σ (Option (Except ScenarioError CreatedObject)) :=
  match document.textAt? ["apiVersion"], document.textAt? ["kind"],
    document.textAt? ["metadata", "name"] with
  | some apiVersion, some kind, some name => do
    let subject := s!"{kind} {name}"
    match ← Scenario.perform client (.resolve apiVersion kind) with
    | .error e => pure (some (.error (.setup .discovery subject e.message)))
    | .ok mapping =>
      let mapping : Mapping := mapping
      let ns := if mapping.namespaced then some (namespaceOf document) else none
      let placed := ns.elim (some document) fun ns =>
        Json.put? (.string ns) ["metadata", "namespace"] document
      match placed with
      | none => pure none
      | some object =>
        match ← Scenario.perform client (.create mapping ns object) with
        | .error e => pure (some (.error (.setup .create subject e.message)))
        | .ok _ => pure (some (.ok ⟨kind, ns, name⟩))
  | _, _, _ => pure none

variable {d : Json} {apiVersion kind name : String}

theorem textAt_eq {path : List String} {text : String} (found : d.textAt? path = some text) :
    textAt d path = text := by
  have given : textAt d path = (d.textAt? path).getD "" := rfl
  rw [given, found, Option.getD_some]

theorem createStrictly_eq (h : IsManifest d apiVersion kind name) {σ : Type} (client : Client σ) :
    createStrictly client d = some <$> createDocument client d := by
  obtain ⟨version, kindFound, named⟩ := h.textAt?
  unfold createStrictly createDocument
  rw [version, kindFound, named, textAt_eq version, textAt_eq kindFound, textAt_eq named]
  simp only [map_bind]
  refine bind_congr fun answer => ?_
  cases answer with
  | error e => rfl
  | ok mapping =>
    have placed : ∀ ns : Option String, (ns.elim (some d) fun ns =>
        Json.put? (.string ns) ["metadata", "namespace"] d) =
        some (ns.elim d (withNamespace d)) := by
      intro ns
      cases ns with
      | none => rfl
      | some ns => exact h.put? ns
    simp only [placed, map_bind]
    refine bind_congr fun answer => ?_
    cases answer with
    | error e => rfl
    | ok u => rfl

/-- An object that was created lies under the name that is reported, in the kind that serves it,
however that is. -/
theorem createDocument_stores {s : Timed (Stage ScriptedCluster)} {o : CreatedObject}
    (made : (createDocument client d s).1 = .ok o) :
    ∃ p : Placement, p.document = d ∧ o = p.created ∧
      Dict.find? s.state.cluster.kinds (textAt d ["apiVersion"], textAt d ["kind"]) =
        some p.mapping ∧
      (createDocument client d s).2.state.cluster.object?
        ⟨p.mapping.kind, o.namespaceName, o.name⟩ = some p.object := by
  obtain ⟨log, answered, -, fit⟩ := createDocument_logs client d s
  rw [made] at fit
  obtain ⟨p, rfl, rfl, rfl⟩ := fit
  obtain ⟨resolved, answered⟩ := answered.cons_inv
  obtain ⟨created, answered⟩ := answered.cons_inv
  have held := ScriptedCluster.object?_create p.mapping p.created.namespaceName p.object created
  rw [Placement.object, objectName_placed] at held
  refine ⟨p, rfl, rfl, ScriptedCluster.resolve_found resolved, ?_⟩
  generalize (createDocument client p.document s).2.state.cluster = after at answered ⊢
  cases answered
  exact held

/-- Creating the object of this document looks for nothing that is not there, whatever the cluster
answers, and what was created is reported under the name that it is stored under. -/
structure CreatesSafely (d : Json) (apiVersion kind name : String) : Prop where
  strictly : ∀ (σ : Type) (client : Client σ),
    createStrictly client d = some <$> createDocument client d
  stored : ∀ (s : Timed (Stage ScriptedCluster)) (o : CreatedObject),
    (createDocument client d s).1 = .ok o → o.kind = kind ∧ o.name = name ∧
      ∃ m object, Dict.find? s.state.cluster.kinds (apiVersion, kind) = some m ∧
        objectName object = name ∧
        (createDocument client d s).2.state.cluster.object? ⟨m.kind, o.namespaceName, name⟩ =
          some object

theorem createsSafely (h : IsManifest d apiVersion kind name) :
    CreatesSafely d apiVersion kind name := by
  obtain ⟨version, kindFound, named⟩ := h.textAt?
  constructor
  case strictly =>
    intro σ client
    exact createStrictly_eq h client
  case stored =>
    intro s o made
    obtain ⟨p, rfl, rfl, served, held⟩ := createDocument_stores made
    have reported : p.created.name = name := textAt_eq named
    rw [textAt_eq version, textAt_eq kindFound] at served
    rw [reported] at held
    exact ⟨textAt_eq kindFound, reported, p.mapping, p.object, served,
      (objectName_placed _ _).trans reported, held⟩

end Fault

/-- A text decodes to its objects in order unless one of its documents is bad, and then to what is
wrong with the first that is, counting the empty ones before it. What it decodes to is safe to
create. -/
theorem decoded_documents_creatable (source text : String) :
    (∀ objects, decodeDocuments source text = .ok objects ↔
      (∀ document ∈ Yaml.values text, IsAcceptable document) ∧
        objects = objectsOf (Yaml.values text)) ∧
    (∀ e, decodeDocuments source text = .error e ↔
      ∃ before document after, Yaml.values text = before ++ document :: after ∧
        (∀ earlier ∈ before, IsAcceptable earlier) ∧
        Complaint source before.length document e) ∧
    ∀ objects, decodeDocuments source text = .ok objects → ∀ d ∈ objects,
      ∃ apiVersion kind name, IsManifest d apiVersion kind name ∧
        Fault.CreatesSafely d apiVersion kind name := by
  refine ⟨fun objects => checkDocuments_ok_iff, fun e => ?_, ?_⟩
  · have first : checkDocuments source 0 (Yaml.values text) = .error e ↔
        IsFirstBad source 0 (Yaml.values text) e := checkDocuments_error_iff
    simp only [IsFirstBad, Nat.zero_add] at first
    exact first
  · intro objects decoded d hd
    obtain ⟨acceptable, rfl⟩ := checkDocuments_ok_iff.mp decoded
    obtain ⟨apiVersion, kind, name, manifest⟩ := isManifest_of_mem_objectsOf acceptable hd
    exact ⟨apiVersion, kind, name, manifest, Fault.createsSafely manifest⟩

/-- A stream whose only object stands in its second document. -/
def accountText : String := "---\n---\n{apiVersion: v1, kind: ServiceAccount, metadata: {name: x}}"

theorem decoded_documents_creatable_account :
    ∃ d, decodeDocuments "account.yaml" accountText = .ok [d] ∧
      Fault.textAt d ["metadata", "name"] = "x" ∧
      ∃ apiVersion kind name, IsManifest d apiVersion kind name ∧
        Fault.CreatesSafely d apiVersion kind name := by
  have names : (decodeDocuments "account.yaml" accountText).toOption.map
      (List.map (Fault.textAt · ["metadata", "name"])) = some ["x"] := by decide +kernel
  obtain ⟨objects, decoded, named⟩ := Option.map_eq_some_iff.mp names
  obtain ⟨d, rfl, name⟩ := List.map_eq_singleton_iff.mp named
  have decoded := toOption_eq_some decoded
  exact ⟨d, decoded, name,
    (decoded_documents_creatable _ _).2.2 [d] decoded d List.mem_cons_self⟩

end Resilience
