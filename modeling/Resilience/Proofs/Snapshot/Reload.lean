import Mathlib
import Resilience.Proofs.Snapshot.Claim
import Resilience.Proofs.Files
import Resilience.Proofs.Snapshot.Merge
/-! # Claims with reports loaded again

A claim that loads still loads after reports were merged into it, unless the certification report was
among them and its suites do not have the form that a snapshot is read from.
-/
namespace Resilience.Snapshot

open Json (IsOutcome LexState Proper lexChar tokensFrom)
open Json.Tree

def certificationKey : String := "cnf-certification-test"

/-- The values of the cases of a suite are outcomes, or they are two bare texts, which are the name
and the status of one. Together they nest no deeper than allowed. -/
def CasesFit (depth : Nat) (values : List Json) : Prop :=
  ∀ j ∈ Xml.gathered values, j.height ≤ depth ∧
    ((∀ v ∈ values, IsOutcome v) ∨ ∃ name status, values = [.string name, .string status])

/-- A suite that is read: a record whose cases fit. -/
def SuiteFits (depth : Nat) (suite : Xml.Element) : Prop :=
  ¬suite.Bare ∧ CasesFit depth ((suite.named "testcase").map Xml.Element.toJson)

/-- A report that is read, or passed over as it holds no suites: a record with at most one suite,
which fits. Six containers lie around the cases. -/
def ReportFits (root : Xml.Element) : Prop :=
  root.name = "testsuites" → ¬root.Bare ∧
    (root.named "testsuite" = [] ∨
      ∃ suite, root.named "testsuite" = [suite] ∧ SuiteFits (Json.maxDepth - 6) suite)

theorem testCase?_element {d : Nat} {e : Xml.Element} (height : e.toJson.height ≤ d) :
    (testCase? d e.toJson.tree).isSome ↔ IsOutcome e.toJson := by
  have proper := e.toJson_proper
  by_cases bare : e.Bare
  · rw [Xml.Element.toJson_bare bare]
    have none : ¬(testCase? d (Json.tree (.string (Text.trim e.text)))).isSome := by
      simp [Json.tree, testCase?, fields?]
    exact iff_of_false none (Json.Tree.not_isOutcome_string _)
  · rw [Xml.Element.toJson_members bare] at height proper ⊢
    obtain ⟨d, rfl⟩ : ∃ c, d = c + 1 := ⟨d - 1, by rw [Json.height] at height; omega⟩
    exact testCase?_object proper.1

/-- An element alone is no list of outcomes. -/
theorem list?_testCase?_element {d : Nat} (e : Xml.Element) :
    ¬(list? testCase? d e.toJson.tree).isSome := by
  intro found
  obtain ⟨_, items, -, array, -⟩ := list?_isSome.mp found
  by_cases bare : e.Bare
  · rw [Xml.Element.toJson_bare bare] at array
    cases array
  · rw [Xml.Element.toJson_members bare] at array
    cases array

theorem list?_testCase?_elements {d : Nat} (es : List Xml.Element)
    (height : ∀ v ∈ es.map Xml.Element.toJson, v.height ≤ d) :
    (list? testCase? (d + 1) (Json.array (es.map Xml.Element.toJson)).tree).isSome ↔
      ∀ v ∈ es.map Xml.Element.toJson, IsOutcome v := by
  have each : ∀ v ∈ es.map Xml.Element.toJson, ((testCase? d v.tree).isSome ↔ IsOutcome v) := by
    intro v hv
    have low := height v hv
    obtain ⟨c, -, rfl⟩ := List.mem_map.mp hv
    exact testCase?_element low
  rw [list?_isSome]
  constructor
  · rintro ⟨_, items, same, array, found⟩ v hv
    cases same
    cases array
    rw [itemTrees_eq] at found
    exact (each v hv).mp (found _ (List.mem_map_of_mem hv))
  · intro found
    refine ⟨d, _, rfl, rfl, fun u hu => ?_⟩
    rw [itemTrees_eq] at hu
    obtain ⟨v, hv, rfl⟩ := List.mem_map.mp hu
    exact (each v hv).mpr (found v hv)

theorem testCases?_gathered {d : Nat} {es : List Xml.Element} {j : Json}
    (h : Xml.gathered (es.map Xml.Element.toJson) = some j) (proper : j.Proper) :
    (testCases? d j.tree).isSome ↔ j.height ≤ d ∧
      ((∀ v ∈ es.map Xml.Element.toJson, IsOutcome v) ∨
        ∃ name status, es.map Xml.Element.toJson = [.string name, .string status]) := by
  rw [testCases?_isSome, Json.value?_tree proper]
  refine and_congr_right fun height => ?_
  rcases es with _ | ⟨e, _ | ⟨f, es⟩⟩
  · cases h
  · cases h
    rw [testCase?_element height]
    simp [list?_testCase?_element e]
  · cases h
    obtain ⟨d, rfl⟩ : ∃ c, d = c + 1 := ⟨d - 1, by rw [Json.height] at height; omega⟩
    have below := Json.itemsHeight_le.mp (Nat.le_of_succ_le_succ height)
    exact or_congr (list?_testCase?_elements (e :: f :: es) below) (testCase?_array (by simp))

theorem gathered_proper {es : List Xml.Element} {j : Json}
    (h : Xml.gathered (es.map Xml.Element.toJson) = some j) : j.Proper := by
  rcases es with _ | ⟨e, _ | ⟨f, es⟩⟩
  · cases h
  · cases h
    exact e.toJson_proper
  · cases h
    change Proper (.array ((e :: f :: es).map Xml.Element.toJson))
    refine Proper.array fun v hv => ?_
    obtain ⟨c, -, rfl⟩ := List.mem_map.mp hv
    exact c.toJson_proper

theorem suite?_isSome {d : Nat} (suite : Xml.Element) :
    (wrapper? "testcase" [] testCases? (d + 1) suite.toJson.tree).isSome ↔ SuiteFits d suite := by
  by_cases bare : suite.Bare
  · rw [Xml.Element.toJson_bare bare, wrapper?_string]
    exact iff_of_false (by simp) fun fits => fits.1 bare
  · have proper := suite.toJson_proper
    rw [Xml.Element.toJson_members bare] at proper ⊢
    rw [wrapper?_object proper.1,
      Xml.Element.find?_members (show Xml.Plain "testcase" by decide) suite]
    refine Iff.trans ?_ (and_iff_right bare).symm
    unfold CasesFit
    cases found : Xml.gathered ((suite.named "testcase").map Xml.Element.toJson) with
    | none => simp [defaulted]
    | some j => simpa [defaulted] using testCases?_gathered found (gathered_proper found)

theorem report?_isSome (root : Xml.Element) :
    (wrapper? "testsuites" [] (wrapper? "testsuite" [] (wrapper? "testcase" [] testCases?))
      (Json.maxDepth - 3) (Json.tree (.object [(root.name, root.toJson)]))).isSome ↔
      ReportFits root := by
  rw [show Json.maxDepth - 3 = Json.maxDepth - 4 + 1 from rfl,
    wrapper?_object (Dict.Ascending.singleton _)]
  unfold ReportFits
  by_cases other : root.name = "testsuites"
  · have found : Dict.find? [(root.name, root.toJson)] "testsuites" = some root.toJson := by
      simp [Dict.find?, other]
    rw [found]
    refine Iff.trans ?_ (forall_prop_of_true other).symm
    change (wrapper? "testsuite" [] _ (Json.maxDepth - 5 + 1) root.toJson.tree).isSome ↔ _
    by_cases bare : root.Bare
    · rw [Xml.Element.toJson_bare bare, wrapper?_string]
      exact iff_of_false (by simp) fun fits => fits.1 bare
    · have proper := root.toJson_proper
      rw [Xml.Element.toJson_members bare] at proper ⊢
      rw [wrapper?_object proper.1,
        Xml.Element.find?_members (show Xml.Plain "testsuite" by decide) root]
      refine Iff.trans ?_ (and_iff_right bare).symm
      rcases root.named "testsuite" with _ | ⟨suite, _ | ⟨f, es⟩⟩
      · simp [Xml.gathered, defaulted]
      · refine (suite?_isSome (d := Json.maxDepth - 6) suite).trans ?_
        simp
      · have none : wrapper? "testcase" [] testCases? (Json.maxDepth - 5)
            (Json.tree (.array ((suite :: f :: es).map Xml.Element.toJson))) = none :=
          wrapper?_array (by simp)
        refine iff_of_false ?_ (by simp)
        change ¬(wrapper? "testcase" [] testCases? (Json.maxDepth - 5)
            (Json.tree (.array ((suite :: f :: es).map Xml.Element.toJson)))).isSome
        rw [none]
        simp
  · have found : Dict.find? [(root.name, root.toJson)] "testsuites" = none := by
      simp [Dict.find?, Ne.symm other]
    rw [found]
    exact iff_of_true rfl fun same => absurd same other

section Loading

variable {files files' : Files} {claim dir : String}

/-- A claim with other raw results is taken if its nodes are, and the certification results. -/
theorem withRawResults_isSome {ms cs results : Dict String Json}
    (proper : Proper (.object ms)) (found : Dict.find? ms "claim" = some (.object cs))
    (hr : Proper (.object results)) :
    (claimDocument? Json.maxDepth
        (Claim.withRawResults (.object ms) results).tree).isSome ↔
      (defaulted ([], []) nodes? (Json.maxDepth - 2)
        ((Dict.find? cs "nodes").map Json.tree)).isSome ∧
      (rawResults? (Json.maxDepth - 2) (Json.tree (.object results))).isSome := by
  have inner := (proper.find? found).insert hr "rawResults"
  have outer := proper.insert inner "claim"
  rw [Claim.withRawResults_object found]
  refine (claimDocument?_isSome (d := Json.maxDepth - 2) outer.1 inner.1
    (Dict.find?_insert_self _ _ _)).trans ?_
  rw [Dict.find?_insert_self, Dict.find?_insert_of_ne _ _ (by decide)]
  rfl

theorem rawResults?_isSome {results : Dict String Json} (hr : Proper (.object results)) :
    (rawResults? (Json.maxDepth - 2) (Json.tree (.object results))).isSome ↔
      ∀ j, Dict.find? results certificationKey = some j →
        (wrapper? "testsuites" [] (wrapper? "testsuite" [] (wrapper? "testcase" [] testCases?))
          (Json.maxDepth - 3) j.tree).isSome := by
  rw [rawResults?, show Json.maxDepth - 2 = Json.maxDepth - 3 + 1 from rfl, wrapper?_object hr.1]
  change (defaulted [] _ _ ((Dict.find? results certificationKey).map Json.tree)).isSome ↔ _
  cases Dict.find? results certificationKey with
  | none => simp [defaulted]
  | some j => simp [defaulted]

/-- A byte that is no text spoils the text of the string that it stands in. Anywhere else, also
behind a backslash, nothing that holds it can be read. No word awaits a backslash. -/
theorem tokensFrom_unreadableByte (state : LexState) (rest : List Char)
    (word : ∀ cs t, state = .word cs t → cs.head? ≠ some '\\') :
    tokensFrom state (unreadableByte ++ rest) =
      match state with
      | .string _ => tokensFrom (.string ⟨none, none⟩) rest
      | _ => none := by
  cases state with
  | between | escape | hex => rfl
  | word cs t =>
    have other := word cs t rfl
    have stuck : lexChar '\\' (.word cs t) = none := by
      rcases cs with _ | ⟨c, _ | ⟨d, cs⟩⟩
      · rfl
      · exact if_neg fun same => other (congrArg some same.symm)
      · exact if_neg fun same => other (congrArg some same.symm)
    rw [unreadableByte, List.cons_append, tokensFrom, stuck]
  | numeral n =>
    have stuck : lexChar '\\' (.numeral n) = none := by cases n <;> rfl
    rw [unreadableByte, List.cons_append, tokensFrom, stuck]
  | string spelling =>
    -- the quote pairs with no surrogate before it, and the surrogate with none behind it
    have spoiled : (spelling.push '"').pushUnit 0xDC00 = ⟨none, none⟩ := by
      obtain ⟨chars, _ | lead⟩ := spelling <;> rfl
    have digits : Text.digit? 16 'd' = some 13 ∧ Text.digit? 16 'c' = some 12 ∧
      Text.digit? 16 '0' = some 0 := ⟨rfl, rfl, rfl⟩
    simp [unreadableByte, tokensFrom, lexChar, Json.escaped?, digits, spoiled]

example (rest : List Char) :
    tokensFrom (.string .start) (['\\'] ++ unreadableByte ++ rest) = none := rfl

theorem load_ok {s : Snapshot} (h : load files claim = .ok s) :
    ∃ content, files.read claim = .ok content ∧ ofChars? (content.chars unreadableByte) = some s := by
  unfold load at h
  split at h
  · cases h
  · next content read =>
    split at h
    · next found =>
      cases h
      exact ⟨content, read, found⟩
    · cases h

/-- A document that was written is loaded as what it is taken for. -/
theorem load_written_eq {document : Json} (proper : document.Proper)
    (written : files.write claim (document.pretty ++ "\n") = .ok files') :
    load files' claim =
      (claimDocument? Json.maxDepth document.tree).elim (.error (.malformed claim)) .ok := by
  have read := Files.read_of_readText (Files.readText_write written)
  have parsed : ofChars? (FileContent.chars unreadableByte (.text (document.pretty ++ "\n"))) =
      claimDocument? Json.maxDepth document.tree := by
    rw [FileContent.chars, ofChars?, Json.ofChars?_line proper, Option.bind_some]
  unfold load
  rw [read]
  dsimp only
  rw [parsed]
  cases claimDocument? Json.maxDepth document.tree <;> rfl

/-- A document that was written loads if it is taken. -/
theorem load_written {document : Json} (proper : document.Proper)
    (written : files.write claim (document.pretty ++ "\n") = .ok files') :
    (∃ s, load files' claim = .ok s) ↔
      (claimDocument? Json.maxDepth document.tree).isSome := by
  rw [load_written_eq proper written]
  cases claimDocument? Json.maxDepth document.tree <;> simp

/-- A claim that loads is taken from a structure that has the value of the claim. -/
theorem denotes_of_load {s : Snapshot} {document : Json} (loaded : load files claim = .ok s)
    (read : Claim.readDocument files claim = .ok document) :
    ∃ t, Denotes t document ∧ claimDocument? Json.maxDepth t = some s := by
  obtain ⟨text, found, parsed⟩ := Claim.readDocument_eq read
  obtain ⟨t, tree, value⟩ := Option.bind_eq_some_iff.mp parsed
  obtain ⟨content, again, taken⟩ := load_ok loaded
  cases found.symm.trans again
  obtain ⟨t', tree', typed⟩ := Option.bind_eq_some_iff.mp taken
  cases tree.symm.trans tree'
  exact ⟨t, ⟨_, value⟩, typed⟩

/-- The nodes and the raw results of a claim that loads are taken as they stand in its value. -/
theorem parts_of_load {s : Snapshot} {document : Json} {results : Dict String Json}
    (loaded : load files claim = .ok s) (read : Claim.readDocument files claim = .ok document)
    (first : Claim.rawResults document = .ok results) :
    ∃ ms cs, document = .object ms ∧ Dict.find? ms "claim" = some (.object cs) ∧
      (defaulted ([], []) nodes? (Json.maxDepth - 2)
        ((Dict.find? cs "nodes").map Json.tree)).isSome ∧
      (rawResults? (Json.maxDepth - 2) (Json.tree (.object results))).isSome := by
  have proper := Claim.readDocument_proper read
  obtain ⟨t, value, typed⟩ := denotes_of_load loaded read
  obtain ⟨s', again, -⟩ := Lasting.claimDocument Json.maxDepth t document s value typed
  obtain ⟨ms, cs, rfl, member, old⟩ := Claim.rawResults_eq first
  obtain ⟨nodes, raw⟩ := (claimDocument?_isSome (d := Json.maxDepth - 2) proper.1
    (proper.find? member).1 member).mp (Option.isSome_iff_exists.mpr ⟨s', again⟩)
  refine ⟨ms, cs, rfl, member, nodes, ?_⟩
  rcases old with ⟨-, rfl⟩ | old
  · rw [rawResults?_isSome .empty]
    simp
  · rwa [old] at raw

/-- After reports were merged into a claim that loads, it loads again unless the certification
report was added and does not fit. -/
theorem load_merged_iff {s : Snapshot} {u : ClaimUpdate} (loaded : load files claim = .ok s)
    (merged : Claim.addReports files claim dir = .ok (u, files')) :
    (∃ s', load files' claim = .ok s') ↔
      (certificationKey ∈ u.added → ∃ text root,
        files.readText (Path.join dir (certificationKey ++ ".xml")) = .ok text ∧
        Xml.Element.parse text = .ok root ∧ ReportFits root) := by
  obtain ⟨done⟩ := Claim.addReports_done merged
  by_cases nothing : u.added = []
  · rw [done.unchanged nothing, nothing]
    exact iff_of_true ⟨s, loaded⟩ (by simp)
  have proper := Claim.readDocument_proper done.read
  obtain ⟨ms, cs, document, member, nodes, old⟩ := parts_of_load loaded done.read done.first
  have written := done.written nothing
  rw [document] at proper written
  have after := Claim.withRawResults_proper proper done.grows.proper
  rw [load_written after written, withRawResults_isSome proper member done.grows.proper,
    and_iff_right nodes, rawResults?_isSome done.grows.proper, done.added]
  rw [rawResults?_isSome (Claim.rawResults_proper (Claim.readDocument_proper done.read) done.first)]
    at old
  by_cases isAdded : certificationKey ∈ done.merged.added
  · obtain ⟨text, root, read, parsed, found⟩ := Claim.added_report done isAdded
    rw [found, forall_prop_of_true isAdded]
    constructor
    · intro fits
      exact ⟨text, root, read, parsed, (report?_isSome root).mp (fits _ rfl)⟩
    · rintro ⟨text', root', read', parsed', fits⟩ j same
      cases same
      cases read.symm.trans read'
      cases parsed.symm.trans parsed'
      exact (report?_isSome root).mpr fits
  · rw [done.grows.kept _ isAdded]
    exact iff_of_true old fun h => absurd h isAdded

end Loading

section TwoSuites

def twoSuites : String :=
  "<testsuites><testsuite name=\"a\"/><testsuite name=\"b\"/></testsuites>"

def twoSuitesValue : Json := .object [("testsuites", .object [("testsuite", .array
  [.object [("-name", .string "a")], .object [("-name", .string "b")]])])]

def besideReport (claim : String) : Files :=
  ⟨[(["claim.json"], .text claim), (["r", "cnf-certification-test.xml"], .text twoSuites)]⟩

def bareClaim : String := "\x7b\"claim\":\x7b\x7d\x7d"

def mergedClaim : Json := Claim.withRawResults (.object [("claim", .object [])])
  [(certificationKey, twoSuitesValue)]

set_option maxRecDepth 20000 in
theorem value_twoSuites : Xml.toJson twoSuites = .ok twoSuitesValue := by cbv

theorem write_besideReport (s : String) :
    (besideReport bareClaim).write "claim.json" s = .ok (besideReport s) := by
  have place : Files.place? "claim.json" = some ["claim.json"] := by decide +kernel
  have slash : "claim.json".endsWith "/" = false := by decide +kernel
  simp [Files.write, place, slash, besideReport, Files.at?, Dict.find?, Dict.insert]

theorem loads_bareClaim : load (besideReport bareClaim) "claim.json" = .ok ⟨[], [], []⟩ := by cbv

set_option maxRecDepth 20000 in
theorem merges_twoSuites : Claim.addReports (besideReport bareClaim) "claim.json" "r" =
    .ok (⟨"claim.json", [certificationKey], []⟩, besideReport (mergedClaim.pretty ++ "\n")) := by
  have document : Claim.readDocument (besideReport bareClaim) "claim.json" =
      .ok (.object [("claim", .object [])]) := by cbv
  have listed : Claim.reportNames (besideReport bareClaim) "r" =
      .ok ["cnf-certification-test.xml"] := by decide +kernel
  have report : Claim.readReport (besideReport bareClaim)
      (Path.join "r" "cnf-certification-test.xml") = .ok twoSuitesValue :=
    Claim.readReport_eq_ok (by decide +kernel) value_twoSuites
  have key : Path.stem "cnf-certification-test.xml" = certificationKey := by decide +kernel
  exact Claim.addReports_single document rfl listed key rfl report (write_besideReport _)

theorem mergedClaim_refused : claimDocument? Json.maxDepth mergedClaim.tree = none := by cbv

theorem load_merged_twoSuites :
    (∃ s', load (besideReport (mergedClaim.pretty ++ "\n")) "claim.json" = .ok s') ↔
      (certificationKey ∈ [certificationKey] → ∃ text root,
        (besideReport bareClaim).readText (Path.join "r" (certificationKey ++ ".xml")) = .ok text ∧
        Xml.Element.parse text = .ok root ∧ ReportFits root) :=
  load_merged_iff loads_bareClaim merges_twoSuites

/-- Merging does not keep every claim loadable: a report of two suites is written as an array. -/
theorem merged_may_not_load : ∃ files files' claim dir s u, load files claim = .ok s ∧
    Claim.addReports files claim dir = .ok (u, files') ∧ ¬∃ s', load files' claim = .ok s' := by
  refine ⟨_, _, _, _, _, _, loads_bareClaim, merges_twoSuites, ?_⟩
  have proper : mergedClaim.Proper := Claim.withRawResults_proper
    ⟨.singleton _, .empty, trivial⟩ ⟨.singleton _, Xml.toJson_proper value_twoSuites, trivial⟩
  rw [load_written proper (write_besideReport _), mergedClaim_refused]
  simp

end TwoSuites
end Resilience.Snapshot
