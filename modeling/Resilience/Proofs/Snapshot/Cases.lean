import Resilience.Proofs.Snapshot.Added
import Resilience.Proofs.Snapshot.Reload
import Resilience.Proofs.Xml.Depth
/-! # Outcomes from reports

The cases of a certification report that was merged into a claim are the outcomes of its snapshot,
whether there are none, one or several of them. They are lost, and the claim with them, if they
nest deeper than values are read.
-/
namespace Resilience

theorem Xml.gathered_eq_none {js : List Json} (h : gathered js = none) : js = [] := by
  match js, h with
  | [], _ => rfl
  | [_], h | _ :: _ :: _, h => cases h

namespace Xml.Element

def attribute? (e : Element) (key : String) : Option String := Dict.find? e.attributes key

variable {e : Element}

theorem find?_members_attribute? (plain : ∀ c ∈ e.children, Plain c.name)
    (keyed : Xml.Keyed e.attributes) (key : String) :
    Dict.find? e.members ("-" ++ key) = (e.attribute? key).map .string := by
  refine Option.ext fun j => ?_
  rw [find?_members_attribute plain, find?_attributeMembers_iff keyed, Option.map_eq_some_iff]
  simp only [attribute?, Dict.find?_iff_mem keyed, eq_comm]

theorem not_bare_of_attribute? {key : String} (h : (e.attribute? key).isSome) : ¬e.Bare := by
  rintro ⟨none, -⟩
  rw [attribute?, none] at h
  cases h

end Xml.Element

namespace Snapshot

open Json.Tree

def outcome (c : Xml.Element) : TestCase :=
  ⟨(c.attribute? "name").getD "", (c.attribute? "status").getD ""⟩

/-- A certification report of one suite, all of whose cases have a name. -/
structure Certification (root suite : Xml.Element) : Prop where
  name : root.name = "testsuites"
  only : root.named "testsuite" = [suite]
  record : ¬suite.Bare
  cases : ∀ c ∈ suite.named "testcase", (c.attribute? "name").isSome
  plain : root.PlainNames

/-- The values of the cases together nest no deeper than they are read. -/
def CasesShallow (suite : Xml.Element) : Prop :=
  ∀ j ∈ Xml.gathered ((suite.named "testcase").map Xml.Element.toJson),
    j.height ≤ Json.maxDepth - 6

/-! ## Cases read -/

structure IsCase (c : Xml.Element) : Prop where
  plain : c.PlainNames
  keyed : c.Keyed
  named : (c.attribute? "name").isSome

theorem IsCase.record {c : Xml.Element} (h : IsCase c) : ¬c.Bare :=
  Xml.Element.not_bare_of_attribute? h.named

theorem IsCase.height_pos {c : Xml.Element} (h : IsCase c) : 0 < c.toJson.height := by
  rw [Xml.Element.toJson_members h.record, Json.height]
  omega

theorem testCase?_outcome {c : Xml.Element} (h : IsCase c) (d : Nat) :
    testCase? (d + 1) c.toJson.tree = some (outcome c) := by
  have proper := c.toJson_proper
  have member := Xml.Element.find?_members_attribute? h.plain.children (h.keyed c (.self c))
  have name : Dict.find? c.members "-name" = _ := member "name"
  have status : Dict.find? c.members "-status" = _ := member "status"
  obtain ⟨text, found⟩ := Option.isSome_iff_exists.mp h.named
  rw [Xml.Element.toJson_members h.record] at proper ⊢
  rw [testCase?, fields?_object proper.1]
  simp only [List.map_cons, List.map_nil, name, status, outcome, found]
  cases c.attribute? "status" <;> rfl

theorem mapM_map_eq_some {α β γ : Type} {t : α → β} {f : β → Option γ} {g : α → γ} {as : List α}
    (h : ∀ a ∈ as, f (t a) = some (g a)) : (as.map t).mapM f = some (as.map g) := by
  induction as with
  | nil => rfl
  | cons a as ih =>
    obtain ⟨first, rest⟩ := List.forall_mem_cons.mp h
    rw [List.map_cons, List.mapM_cons, first, ih rest]
    rfl

/-- Cases are read as their outcomes, one alone as well as several. -/
theorem testCases?_outcomes {es : List Xml.Element} {d : Nat} {j : Json}
    (cases : ∀ c ∈ es, IsCase c) (h : Xml.gathered (es.map Xml.Element.toJson) = some j)
    (low : j.height ≤ d) : testCases? d j.tree = some (es.map outcome) := by
  obtain ⟨v, whole⟩ := Option.isSome_iff_exists.mp ((Json.value?_tree (gathered_proper h)).mpr low)
  rw [testCases?, whole]
  match es, h with
  -- one case is no list, so it is read as a single outcome
  | [c], rfl =>
    have isCase := cases c List.mem_cons_self
    obtain ⟨d, rfl⟩ : ∃ e, d = e + 1 := ⟨d - 1, by have := isCase.height_pos; omega⟩
    have alone : list? testCase? (d + 1) c.toJson.tree = none := by
      rw [Xml.Element.toJson_members isCase.record]
      rfl
    simp only [alone, testCase?_outcome isCase]
    rfl
  | c :: c' :: es, rfl =>
    obtain ⟨d, rfl⟩ : ∃ e, d = e + 2 := by
      obtain ⟨d, rfl⟩ : ∃ e, d = e + 1 := ⟨d - 1, by rw [Json.height] at low; omega⟩
      have inner := Json.itemsHeight_le.mp (Nat.le_of_succ_le_succ low) c.toJson List.mem_cons_self
      have := (cases c List.mem_cons_self).height_pos
      exact ⟨d - 1, by omega⟩
    have several : list? testCase? (d + 2)
        (Json.tree (.array (c.toJson :: (c' :: es).map Xml.Element.toJson))) =
          some ((c :: c' :: es).map outcome) := by
      rw [← List.map_cons, Json.tree, list?, itemTrees_eq, List.map_map]
      exact mapM_map_eq_some fun e he => testCase?_outcome (cases e he) d
    simp only [several]
    rfl

theorem Certification.suite_mem {root suite : Xml.Element} (h : Certification root suite) :
    suite ∈ root.children := by
  have selected : suite ∈ root.named "testsuite" := h.only ▸ List.mem_singleton_self suite
  exact (List.mem_filter.mp selected).1

theorem Certification.isCase {root suite : Xml.Element} (h : Certification root suite)
    (keyed : root.Keyed) : ∀ c ∈ suite.named "testcase", IsCase c := by
  intro c hc
  have inside := h.suite_mem
  have inner : c ∈ suite.children := (List.mem_filter.mp hc).1
  exact ⟨(h.plain.child inside).child inner, (keyed.child inside).child inner, h.cases c hc⟩

theorem report?_outcomes {root suite : Xml.Element} (h : Certification root suite)
    (keyed : root.Keyed) (shallow : CasesShallow suite) :
    wrapper? "testsuites" [] (wrapper? "testsuite" [] (wrapper? "testcase" [] testCases?))
      (Json.maxDepth - 3) (Json.tree (.object [(root.name, root.toJson)])) =
        some ((suite.named "testcase").map outcome) := by
  have cases := h.isCase keyed
  have rootRecord : ¬root.Bare := by
    rintro ⟨-, none⟩
    have only := h.only
    rw [Xml.Element.named, none] at only
    cases only
  have suites : Dict.find? root.members "testsuite" = some suite.toJson := by
    rw [Xml.Element.find?_members (show Xml.Plain "testsuite" by decide), h.only]
    rfl
  have found : Dict.find? [(root.name, root.toJson)] "testsuites" = some root.toJson := by
    simp [Dict.find?, h.name]
  have rootProper := root.toJson_proper
  have suiteProper := suite.toJson_proper
  rw [show Json.maxDepth - 3 = Json.maxDepth - 4 + 1 from rfl,
    wrapper?_object (Dict.Ascending.singleton _), found]
  change wrapper? "testsuite" [] _ (Json.maxDepth - 5 + 1) root.toJson.tree = _
  rw [Xml.Element.toJson_members rootRecord] at rootProper ⊢
  rw [wrapper?_object rootProper.1, suites]
  change wrapper? "testcase" [] _ (Json.maxDepth - 6 + 1) suite.toJson.tree = _
  rw [Xml.Element.toJson_members h.record] at suiteProper ⊢
  rw [wrapper?_object suiteProper.1,
    Xml.Element.find?_members (show Xml.Plain "testcase" by decide) suite]
  cases values : Xml.gathered ((suite.named "testcase").map Xml.Element.toJson) with
  | none =>
    rw [List.map_eq_nil_iff.mp (Xml.gathered_eq_none values)]
    rfl
  | some j => exact testCases?_outcomes cases values (shallow j values)

/-! ## Claims with the report -/

section Merging

variable {files files' : Files} {claim dir text : String} {u : ClaimUpdate} {s : Snapshot}
  {root suite : Xml.Element}

/-- A report that lies in the directory and is not in the claim is added. -/
theorem certification_added (wf : files.WellFormed) (done : Claim.Done files files' claim dir u)
    (lacks : Claim.result? done.document certificationKey = none)
    (content : files.readText (Path.join dir (certificationKey ++ ".xml")) = .ok text) :
    certificationKey ∈ done.merged.added := by
  have stem : Path.stem (certificationKey ++ ".xml") = certificationKey := by decide +kernel
  have report : Claim.IsReport files dir (certificationKey ++ ".xml") :=
    ⟨by decide +kernel, by decide +kernel, Files.isFile_of_read (Files.read_of_readText content)⟩
  have listed := (Claim.mem_reportNames wf done.listed).mpr report
  have free : Dict.contains done.results certificationKey = false := by
    rw [Dict.contains, ← Claim.result?_of_rawResults done.first, lacks]
    rfl
  rw [← done.added, (done.parted wf).1, List.mem_filter, free]
  exact ⟨stem ▸ List.mem_map_of_mem listed, rfl⟩

theorem load_report (loaded : load files claim = .ok s) (done : Claim.Done files files' claim dir u)
    (isAdded : certificationKey ∈ done.merged.added)
    (content : files.readText (Path.join dir (certificationKey ++ ".xml")) = .ok text)
    (parsed : Xml.Element.parse text = .ok root) :
    ∃ parts : Dict String (List PluginEntry) × Dict String Json, load files' claim =
      ((wrapper? "testsuites" [] (wrapper? "testsuite" [] (wrapper? "testcase" [] testCases?))
        (Json.maxDepth - 3) (Json.tree (.object [(root.name, root.toJson)]))).map fun cases =>
          (⟨parts.1, parts.2, cases⟩ : Snapshot)).elim (.error (.malformed claim)) .ok := by
  obtain ⟨text', root', content', parsed', found⟩ := Claim.added_report done isAdded
  cases content.symm.trans content'
  cases parsed.symm.trans parsed'
  have changed : u.added ≠ [] := fun nothing => by
    rw [← done.added, nothing] at isAdded
    cases isAdded
  have proper := Claim.readDocument_proper done.read
  have written := done.written changed
  obtain ⟨ms, cs, isObject, member, nodes, -⟩ := parts_of_load loaded done.read done.first
  obtain ⟨parts, taken⟩ := Option.isSome_iff_exists.mp nodes
  rw [isObject] at proper written
  have inner := (proper.find? member).insert done.grows.proper "rawResults"
  have outer := proper.insert inner "claim"
  rw [load_written_eq (Claim.withRawResults_proper proper done.grows.proper) written,
    Claim.withRawResults_object member]
  -- the nodes are taken as before, so the report decides
  have document := claimDocument?_object (d := Json.maxDepth - 2) outer.1 inner.1
    (Dict.find?_insert_self _ _ _)
  rw [Dict.find?_insert_self, Dict.find?_insert_of_ne _ _ (by decide), taken] at document
  have results : rawResults? (Json.maxDepth - 2) (Json.tree (.object done.merged.results)) =
      wrapper? "testsuites" [] (wrapper? "testsuite" [] (wrapper? "testcase" [] testCases?))
        (Json.maxDepth - 3) (Json.tree (.object [(root.name, root.toJson)])) := by
    rw [rawResults?, show Json.maxDepth - 2 = Json.maxDepth - 3 + 1 from rfl,
      wrapper?_object done.grows.proper.1]
    change defaulted [] _ _ ((Dict.find? done.merged.results certificationKey).map Json.tree) = _
    rw [found]
    rfl
  refine ⟨parts, ?_⟩
  change Option.elim (claimDocument? (Json.maxDepth - 2 + 2) _) _ _ = _
  rw [document, ← results]
  change Option.elim (Option.bind (rawResults? (Json.maxDepth - 2) _) _) _ _ = _
  cases rawResults? (Json.maxDepth - 2) (Json.tree (.object done.merged.results)) <;> rfl

theorem load_shallow (h : Certification root suite) (shallow : CasesShallow suite)
    (loaded : load files claim = .ok s) (done : Claim.Done files files' claim dir u)
    (isAdded : certificationKey ∈ done.merged.added)
    (content : files.readText (Path.join dir (certificationKey ++ ".xml")) = .ok text)
    (parsed : Xml.Element.parse text = .ok root) : ∃ s', load files' claim = .ok s' ∧
      s'.testCases = (suite.named "testcase").map outcome := by
  obtain ⟨parts, same⟩ := load_report loaded done isAdded content parsed
  rw [report?_outcomes h (Xml.Element.parse_keyed parsed) shallow] at same
  exact ⟨_, same, rfl⟩

theorem load_deep (h : Certification root suite) (deep : ¬CasesShallow suite)
    (loaded : load files claim = .ok s) (done : Claim.Done files files' claim dir u)
    (isAdded : certificationKey ∈ done.merged.added)
    (content : files.readText (Path.join dir (certificationKey ++ ".xml")) = .ok text)
    (parsed : Xml.Element.parse text = .ok root) : load files' claim = .error (.malformed claim) := by
  obtain ⟨parts, same⟩ := load_report loaded done isAdded content parsed
  have refused := mt (report?_isSome root).mp fun fits => by
    obtain ⟨-, none | ⟨other, only, -, low⟩⟩ := fits h.name
    · rw [h.only] at none
      cases none
    · cases h.only.symm.trans only
      exact deep fun j hj => (low j hj).1
  rw [Option.not_isSome_iff_eq_none.mp refused] at same
  exact same

/-- Cases of a report of at most 62 elements in one another do not nest too deep. -/
theorem Certification.shallow (h : Certification root suite) (low : root.depth ≤ 62) :
    CasesShallow suite := by
  intro j hj
  have inside := h.suite_mem
  -- the cases lie two elements below the root, and several of them in one array more
  have bound : j.height ≤ 2 * (root.depth - 2) := by
    refine Xml.height_gathered hj fun v hv => ?_
    obtain ⟨c, hc, rfl⟩ := List.mem_map.mp hv
    have inner : c ∈ suite.children := (List.mem_filter.mp hc).1
    have height := Xml.Element.height_toJson_lt ((h.plain.child inside).child inner)
    have := Xml.Element.depth_lt inside
    have := Xml.Element.depth_lt inner
    omega
  have : Json.maxDepth - 6 = 121 := rfl
  omega

/-- After a certification report was merged into a claim that had none, the snapshot has the names
and the statuses of its cases in their order, unless the cases nest deeper than values are read, and
the claim is no longer read at all. They do not if the report nests at most 62 deep. -/
theorem load_merged_outcomes (wf : files.WellFormed) (loaded : load files claim = .ok s)
    {document : Json} (read : Claim.readDocument files claim = .ok document)
    (lacks : Claim.result? document certificationKey = none)
    (content : files.readText (Path.join dir (certificationKey ++ ".xml")) = .ok text)
    (parsed : Xml.Element.parse text = .ok root) (h : Certification root suite)
    (merged : Claim.addReports files claim dir = .ok (u, files')) :
    (CasesShallow suite → ∃ s', load files' claim = .ok s' ∧
      s'.testCases = (suite.named "testcase").map outcome) ∧
    (¬CasesShallow suite → load files' claim = .error (.malformed claim)) ∧
    (root.depth ≤ 62 → CasesShallow suite) := by
  obtain ⟨done⟩ := Claim.addReports_done merged
  cases read.symm.trans done.read
  have isAdded := certification_added wf done lacks content
  exact ⟨fun shallow => load_shallow h shallow loaded done isAdded content parsed,
    fun deep => load_deep h deep loaded done isAdded content parsed, h.shallow⟩

end Merging

section DeepReport

def withCertification (report : String) : Files :=
  Claim.claimBeside (certificationKey ++ ".xml") report

variable {report : String} {root suite : Xml.Element}

theorem certification_isName : Files.IsName (certificationKey ++ ".xml") :=
  Claim.isName_of_extension (by decide +kernel) (by decide +kernel)

theorem withCertification_wellFormed : (withCertification report).WellFormed :=
  Claim.claimBeside_wellFormed

theorem load_withCertification : load (withCertification report) "claim.json" = .ok {} := by
  have taken : ofChars? (FileContent.chars unreadableByte (.text Claim.emptyClaim)) =
      some {} := by cbv
  rw [load, withCertification, Claim.read_claimBeside certification_isName]
  dsimp only
  rw [taken]

theorem readDocument_withCertification : Claim.readDocument (withCertification report) "claim.json" =
    .ok (.object [("claim", .object [])]) :=
  Claim.readDocument_claimBeside certification_isName

theorem readText_withCertification : (withCertification report).readText
    (Path.join "r" (certificationKey ++ ".xml")) = .ok report :=
  Claim.readText_claimBeside certification_isName

theorem merges_withCertification (parsed : Xml.Element.parse report = .ok root) :
    ∃ u files', Claim.addReports (withCertification report) "claim.json" "r" = .ok (u, files') := by
  have converted : Xml.toJson report = .ok (.object [(root.name, root.toJson)]) := by
    rw [Xml.toJson, parsed]
    rfl
  exact ⟨_, Claim.addReports_claimBeside certification_isName (by decide +kernel) converted⟩

def openingTags : String := "<testsuites><testsuite><testcase name=\"deep\">"

def closingTags : String := "</testcase></testsuite></testsuites>"

/-- A report whose case holds elements of two children each, so many in one another. -/
def deepReport (n : Nat) : String :=
  String.ofList (openingTags.toList ++ (Xml.doubledChars n ++ closingTags.toList))

def deepSuite (n : Nat) : Xml.Element :=
  .mk "testsuite" [] [.mk "testcase" [("name", "deep")] [Xml.doubledElement n] ""] ""

def deepRoot (n : Nat) : Xml.Element := .mk "testsuites" [] [deepSuite n] ""

theorem eventsFrom_openingTags (fuel : Nat) (cs : List Char) :
    Xml.eventsFrom (fuel + 3) (openingTags.toList ++ cs) = .opened "testsuites" [] ::
      .opened "testsuite" [] :: .opened "testcase" [("name", "deep")] ::
        Xml.eventsFrom fuel cs := by
  rfl

theorem eventsFrom_closingTags (fuel : Nat) : Xml.eventsFrom (fuel + 3) closingTags.toList =
    [.closed "testcase", .closed "testsuite", .closed "testsuites"] := by
  cases fuel <;> rfl

theorem parse_deepReport (n : Nat) : Xml.Element.parse (deepReport n) = .ok (deepRoot n) := by
  have events : Xml.events (deepReport n) = Xml.eventsFrom (3 * n + 1 + (8 * n + 79 + 3) + 3)
      (openingTags.toList ++ (Xml.doubledChars n ++ closingTags.toList)) := by
    have steps : 3 * n + 1 + (8 * n + 79 + 3) + 3 =
        (openingTags.toList ++ (Xml.doubledChars n ++ closingTags.toList)).length + 1 := by
      have opening : openingTags.toList.length = 45 := by decide
      have closing : closingTags.toList.length = 36 := by decide
      rw [List.length_append, List.length_append, Xml.doubledChars_length, opening, closing]
      omega
    rw [steps, Xml.events, deepReport, String.toList_ofList]
    rfl
  have built := Xml.foldlM_doubled n (8 * n + 79 + 3) closingTags.toList
    ⟨[⟨"testcase", [("name", "deep")], [], []⟩, ⟨"testsuite", [], [], []⟩,
      ⟨"testsuites", [], [], []⟩], none⟩
  rw [eventsFrom_closingTags] at built
  rw [Xml.Element.parse, Xml.Element.ofEvents, events, eventsFrom_openingTags]
  change (List.foldlM Xml.TreeState.step _ (Xml.eventsFrom _ _)).bind Xml.TreeState.finish = _
  rw [built]
  rfl

theorem doubled_plainNames (n : Nat) : (Xml.doubledElement n).PlainNames := by
  have name : Xml.Plain "a" := by decide
  induction n with
  | zero => simp [Xml.doubledElement, Xml.Element.plainNames_mk, name]
  | succ n ih => simp [Xml.doubledElement, Xml.Element.plainNames_mk, name, ih]

theorem deepReport_certification (n : Nat) : Certification (deepRoot n) (deepSuite n) where
  name := rfl
  only := rfl
  record := by simp [deepSuite, Xml.Element.Bare, Xml.Element.children]
  cases c hc := by
    cases List.mem_singleton.mp hc
    rfl
  plain := by
    have names : Xml.Plain "testsuites" ∧ Xml.Plain "testsuite" ∧ Xml.Plain "testcase" := by decide
    simp [deepRoot, deepSuite, Xml.Element.plainNames_mk, names, doubled_plainNames]

theorem depth_deepRoot (n : Nat) : (deepRoot n).depth = n + 4 := by
  simp [deepRoot, deepSuite, Xml.Element.depth, Xml.childrenDepth, Xml.depth_doubled]

theorem deepSuite_shallow_iff (n : Nat) : CasesShallow (deepSuite n) ↔ n ≤ 60 := by
  have value : Xml.gathered (((deepSuite n).named "testcase").map Xml.Element.toJson) =
      some (.object [("-name", .string "deep"), ("a", (Xml.doubledElement n).toJson)]) := by
    change some (Xml.Element.toJson (.mk "testcase" [("name", "deep")] [Xml.doubledElement n] "")) = _
    rw [Xml.Element.toJson, Xml.addChildren, Xml.name_doubled]
    rfl
  have limit : Json.maxDepth - 6 = 121 := rfl
  rw [CasesShallow, value, limit]
  simp only [Option.mem_some_iff, forall_eq', Json.height, Json.membersHeight, Xml.height_doubled]
  omega

def twoCases : String := "<testsuites><testsuite name=\"s\">" ++
  "<testcase name=\"a\" status=\"passed\"/><note/><testcase name=\"b\"/>" ++
  "</testsuite></testsuites>"

def twoCasesSuite : Xml.Element := .mk "testsuite" [("name", "s")]
  [.mk "testcase" [("name", "a"), ("status", "passed")] [] "", .mk "note" [] [] "",
    .mk "testcase" [("name", "b")] [] ""] ""

theorem parse_twoCases :
    Xml.Element.parse twoCases = .ok (.mk "testsuites" [] [twoCasesSuite] "") := by
  cbv

theorem twoCases_certification :
    Certification (.mk "testsuites" [] [twoCasesSuite] "") twoCasesSuite where
  name := rfl
  only := rfl
  record := by decide
  cases := by decide
  plain := by
    have names : Xml.Plain "testsuites" ∧ Xml.Plain "testsuite" ∧ Xml.Plain "testcase" ∧
        Xml.Plain "note" := by decide
    simp [twoCasesSuite, Xml.Element.plainNames_mk, names]

theorem load_merged_outcomes_twoCases : ∃ u files' s',
    Claim.addReports (withCertification twoCases) "claim.json" "r" = .ok (u, files') ∧
      load files' "claim.json" = .ok s' ∧ s'.testCases = [⟨"a", "passed"⟩, ⟨"b", ""⟩] := by
  obtain ⟨u, files', merged⟩ := merges_withCertification parse_twoCases
  have outcomes := load_merged_outcomes withCertification_wellFormed load_withCertification
    readDocument_withCertification rfl readText_withCertification parse_twoCases
    twoCases_certification merged
  obtain ⟨s', loaded, cases⟩ := outcomes.1 (outcomes.2.2 (by decide))
  exact ⟨u, files', s', merged, loaded, cases⟩

/-- Not every report of less than a hundred elements in one another leaves its outcomes: an array
for every two siblings makes its value nest twice as deep. -/
theorem outcomes_may_be_lost : ∃ files files' claim dir s u document text root suite,
    files.WellFormed ∧ load files claim = .ok s ∧ Claim.readDocument files claim = .ok document ∧
      Claim.result? document certificationKey = none ∧
      files.readText (Path.join dir (certificationKey ++ ".xml")) = .ok text ∧
      Xml.Element.parse text = .ok root ∧ Certification root suite ∧ root.depth < 100 ∧
      Claim.addReports files claim dir = .ok (u, files') ∧ ¬∃ s', load files' claim = .ok s' := by
  have parsed := parse_deepReport 61
  obtain ⟨u, files', merged⟩ := merges_withCertification parsed
  refine ⟨_, files', _, _, _, u, _, _, _, deepSuite 61, withCertification_wellFormed,
    load_withCertification, readDocument_withCertification, rfl, readText_withCertification,
    parsed, deepReport_certification 61, ?_, merged, ?_⟩
  · rw [depth_deepRoot]
    decide
  · obtain ⟨done⟩ := Claim.addReports_done merged
    have lacks : Claim.result? done.document certificationKey = none := by
      rw [← Except.ok.inj (readDocument_withCertification.symm.trans done.read)]
      rfl
    have isAdded := certification_added withCertification_wellFormed done lacks
      readText_withCertification
    have deep : ¬CasesShallow (deepSuite 61) := by
      rw [deepSuite_shallow_iff]
      decide
    rw [load_deep (deepReport_certification 61) deep load_withCertification done isAdded
      readText_withCertification parsed]
    simp

end DeepReport

end Snapshot
end Resilience
