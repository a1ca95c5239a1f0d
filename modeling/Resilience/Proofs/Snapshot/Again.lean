import Resilience.Proofs.Json.Typed
import Resilience.Proofs.Snapshot.Added
import Resilience.Proofs.Xml.Nested
/-! # Reports added once more

Adding the reports of a directory for a second time skips all of them and writes nothing, as long as
the claim can be read again. It cannot when a report that was added nests too deep: reports are
converted at any depth, while values are read to a limited one.
-/
namespace Resilience

namespace Json

variable {ms : Dict String Json} {j : Json} {d : Nat}

theorem height_object : height (.object ms) ≤ d + 1 ↔ membersHeight ms ≤ d := by
  rw [height, Nat.succ_le_succ_iff]

theorem membersHeight_insert (h : membersHeight ms ≤ d) (key : String) :
    membersHeight (Dict.insert ms key j) ≤ d ↔ j.height ≤ d := by
  rw [membersHeight_le] at h ⊢
  constructor
  · intro all
    exact all _ (Dict.mem_of_find? (Dict.find?_insert_self ms key j))
  · intro low m hm
    rcases Dict.mem_insert hm with rfl | hm
    · exact low
    · exact h m hm

theorem height_of_find? {key : String} (h : membersHeight ms ≤ d)
    (found : Dict.find? ms key = some j) : j.height ≤ d :=
  membersHeight_le.mp h _ (Dict.mem_of_find? found)

end Json

namespace Claim

open Resilience.Path (stem)

variable {files files' : Files} {dir claim : String} {m m' : Merged} {u : ClaimUpdate}

/-- How deep a value may nest to be read inside the raw results of a claim. -/
def resultDepth : Nat := Json.maxDepth - 3

def Shallow (files : Files) (dir : String) (keys : List String) : Prop :=
  ∀ key ∈ keys, ∀ text value, files.readText (Path.join dir (key ++ ".xml")) = .ok text →
    Xml.toJson text = .ok value → value.height ≤ resultDepth

/-! ## The claim read again -/

theorem readDocument_written {document : Json} (proper : document.Proper)
    (written : files.write claim (document.pretty ++ "\n") = .ok files') :
    readDocument files' claim =
      (document.tree.value? Json.maxDepth).elim (.error (.notJson claim)) .ok := by
  rw [readDocument, Files.read_of_readText (Files.readText_write written)]
  dsimp only
  rw [Json.parse?, Json.ofChars?_line proper, Option.bind_some]
  cases document.tree.value? Json.maxDepth <;> rfl

/-- A claim that is read again has its keys of raw results. -/
theorem rawResults_again {ms cs results : Dict String Json} {d : Nat} {again : Json}
    (proper : (withRawResults (.object ms) results).Proper)
    (member : Dict.find? ms "claim" = some (.object cs))
    (value : (withRawResults (.object ms) results).tree.value? (d + 3) = some again) :
    ∃ kept, rawResults again = .ok kept ∧
      ∀ key, Dict.contains results key → Dict.contains kept key := by
  rw [withRawResults_object member] at proper value
  have inner := proper.find? (Dict.find?_insert_self _ _ _)
  have innermost := inner.find? (Dict.find?_insert_self _ _ _)
  obtain ⟨ns, rfl, members⟩ := Json.Tree.value?_object proper.1 value
  obtain ⟨_, found, value⟩ := members _ _ (Dict.find?_insert_self _ _ _)
  obtain ⟨ds, rfl, members⟩ := Json.Tree.value?_object inner.1 value
  obtain ⟨_, found', value⟩ := members _ _ (Dict.find?_insert_self _ _ _)
  obtain ⟨kept, rfl, members⟩ := Json.Tree.value?_object innermost.1 value
  refine ⟨kept, ?_, fun key there => ?_⟩
  · unfold rawResults
    rw [Json.member?_object, found, Option.bind_some, Json.members?]
    dsimp only
    rw [found']
  · obtain ⟨i, hi⟩ := Option.isSome_iff_exists.mp there
    obtain ⟨_, found, -⟩ := members key i hi
    rw [Dict.contains, found]
    rfl

/-- A claim with other raw results nests as deep as these let it. -/
theorem height_withRawResults {ms cs results : Dict String Json} {d : Nat}
    (low : Json.height (.object ms) ≤ d + 3)
    (member : Dict.find? ms "claim" = some (.object cs)) :
    (withRawResults (.object ms) results).height ≤ d + 3 ↔ Json.membersHeight results ≤ d := by
  have outer := Json.height_object.mp low
  have inner := Json.height_object.mp (Json.height_of_find? outer member)
  rw [withRawResults_object member, Json.height_object, Json.membersHeight_insert outer,
    Json.height_object, Json.membersHeight_insert inner, Json.height_object]

theorem readDocument_height {document : Json} (h : readDocument files claim = .ok document) :
    document.height ≤ Json.maxDepth := by
  obtain ⟨s, -, parsed⟩ := readDocument_eq h
  obtain ⟨t, -, value⟩ := Option.bind_eq_some_iff.mp parsed
  exact (Json.value?_spec value).2

theorem rawResults_height {document : Json} {results : Dict String Json} {d : Nat}
    (low : document.height ≤ d + 3) (first : rawResults document = .ok results) :
    Json.membersHeight results ≤ d := by
  obtain ⟨ms, cs, rfl, member, ⟨-, rfl⟩ | old⟩ := rawResults_eq first
  · exact Nat.zero_le d
  · have inner := Json.height_object.mp (Json.height_of_find? (Json.height_object.mp low) member)
    exact Json.height_object.mp (Json.height_of_find? inner old)

/-- Results that grew nest as deep as what was added. -/
theorem Done.membersHeight (done : Done files files' claim dir u) :
    Json.membersHeight done.merged.results ≤ resultDepth ↔ Shallow files dir u.added := by
  rw [Json.membersHeight_le]
  constructor
  · intro low key hk text value read converted
    rw [done.added] at hk
    obtain ⟨text', root, read', parsed, found⟩ := added_report done hk
    cases read.symm.trans read'
    rw [Xml.toJson, parsed] at converted
    cases converted
    exact low _ (Dict.mem_of_find? found)
  · rintro shallow ⟨key, value⟩ hm
    have found := done.grows.proper.1.find?_eq_some hm
    by_cases hk : key ∈ done.merged.added
    · obtain ⟨text, root, read, parsed, found'⟩ := added_report done hk
      cases found.symm.trans found'
      refine shallow key (done.added ▸ hk) text _ read ?_
      rw [Xml.toJson, parsed]
      rfl
    · rw [done.grows.kept key hk] at found
      exact Json.height_of_find?
        (rawResults_height (readDocument_height done.read) done.first) found

/-! ## Nothing more to add -/

theorem addReports_there {names : List String} :
    ∀ {m : Merged}, (∀ name ∈ names, Dict.contains m.results (stem name)) →
      names.foldlM (addReport files dir) m =
        .ok { m with skipped := m.skipped ++ names.map stem } := by
  induction names with
  | nil =>
    intro m _
    rw [List.map_nil, List.append_nil]
    rfl
  | cons name names ih =>
    intro m h
    have step : addReport files dir m name = .ok { m with skipped := m.skipped ++ [stem name] } :=
      if_pos (h name List.mem_cons_self)
    have rest := ih (m := { m with skipped := m.skipped ++ [stem name] })
      fun n hn => h n (List.mem_cons_of_mem _ hn)
    rw [List.foldlM_cons, step]
    refine rest.trans ?_
    rw [List.append_assoc]
    rfl

/-- Where every report has its key nothing is added. -/
theorem addReports_nothing {document : Json} {results : Dict String Json} {names : List String}
    (read : readDocument files claim = .ok document) (first : rawResults document = .ok results)
    (listed : reportNames files dir = .ok names)
    (h : ∀ name ∈ names, Dict.contains results (stem name)) :
    addReports files claim dir = .ok (⟨claim, [], names.map stem⟩, files) := by
  rw [addReports, read]
  change Except.bind (Except.mapError _ _) _ = _
  rw [first, listed]
  change Except.bind (List.foldlM _ _ _) _ = _
  rw [addReports_there h]
  rfl

theorem reportNames_write {names : List String} {s : String} (wf : files.WellFormed)
    (file : files.isFile claim) (written : files.write claim s = .ok files')
    (h : reportNames files dir = .ok names) : reportNames files' dir = .ok names := by
  obtain ⟨listed, found, rfl⟩ := reportNames_eq h
  rw [reportNames, Files.filesIn_write wf file written found]

namespace Done

variable (done : Done files files' claim dir u) (wf : files.WellFormed)
include wf

/-- After the reports were merged every one of them has its key. -/
theorem there : ∀ name ∈ done.names, Dict.contains done.merged.results (stem name) := by
  intro name hn
  by_cases hk : stem name ∈ done.merged.added
  · obtain ⟨-, _, -, -, j, -, found⟩ := done.grows.added _ hk
    rw [Dict.contains, found]
    rfl
  · rw [Dict.contains, done.grows.kept _ hk]
    rw [← done.added, (done.parted wf).1, List.mem_filter] at hk
    by_contra free
    exact hk ⟨List.mem_map_of_mem hn, by simpa [Dict.contains] using free⟩

theorem names_eq : (done.names.map stem).map (· ++ ".xml") = done.names := by
  rw [List.map_map]
  refine (List.map_congr_left fun name hn => ?_).trans (List.map_id _)
  have ext := ((mem_reportNames wf done.listed).mp hn).extension
  exact (String.append_assoc ..).symm.trans (Path.eq_of_extension? ext).symm

theorem keys_perm : (done.names.map stem).Perm (u.added ++ u.skipped) := by
  obtain ⟨added, skipped⟩ := done.parted wf
  rw [added, skipped]
  exact ((List.perm_append_comm).trans (List.filter_append_perm _ _)).symm

/-- What was skipped altogether is skipped again. -/
theorem again_unchanged (nothing : u.added = []) :
    addReports files claim dir = .ok (⟨claim, [], done.names.map stem⟩, files) := by
  refine addReports_nothing done.read done.first done.listed fun name hn => ?_
  have there := done.there wf name hn
  rwa [Dict.contains, done.grows.kept _ (by simp [← done.added, nothing])] at there

/-- A claim that was written is read again if what was added is shallow. -/
theorem again (written : files.write claim
    ((withRawResults done.document done.merged.results).pretty ++ "\n") = .ok files') :
    (Shallow files dir u.added →
      addReports files' claim dir = .ok (⟨claim, [], done.names.map stem⟩, files')) ∧
    (¬Shallow files dir u.added → addReports files' claim dir = .error (.notJson claim)) := by
  obtain ⟨ms, cs, same, member, -⟩ := rawResults_eq done.first
  have proper := withRawResults_proper (readDocument_proper done.read) done.grows.proper
  -- a result stands in three objects: the document, its claim and the raw results
  have low : done.document.height ≤ resultDepth + 3 := readDocument_height done.read
  have fits := Json.value?_tree (d := Json.maxDepth) proper
  have read := readDocument_written proper written
  rw [same] at proper low
  rw [← done.membersHeight, ← height_withRawResults low member, ← same]
  constructor
  · intro shallow
    obtain ⟨again, value⟩ := Option.isSome_iff_exists.mp (fits.mpr shallow)
    rw [value] at read
    rw [same] at value
    obtain ⟨kept, raw, keys⟩ := rawResults_again (d := resultDepth) proper member value
    have listed := reportNames_write wf done.isFile written done.listed
    exact addReports_nothing read raw listed fun name hn => keys _ (done.there wf name hn)
  · intro deep
    have none := Option.not_isSome_iff_eq_none.mp (mt fits.mp deep)
    rw [none] at read
    rw [addReports, read]
    rfl

end Done

/-- The second time all reports are skipped and nothing is written if those that were added are
shallow; otherwise the claim that was written is refused. -/
theorem addReports_again (wf : files.WellFormed)
    (merged : addReports files claim dir = .ok (u, files')) :
    ∃ keys, (keys.map (· ++ ".xml")).Pairwise (· < ·) ∧ keys.Perm (u.added ++ u.skipped) ∧
      (Shallow files dir u.added →
        addReports files' claim dir = .ok (⟨claim, [], keys⟩, files')) ∧
      (¬Shallow files dir u.added → addReports files' claim dir = .error (.notJson claim)) := by
  obtain ⟨done⟩ := addReports_done merged
  refine ⟨done.names.map stem, ?_, done.keys_perm wf, ?_⟩
  · rw [done.names_eq wf]
    exact reportNames_ascending wf done.listed
  · by_cases nothing : u.added = []
    · obtain rfl := done.unchanged nothing
      have shallow : Shallow files' dir u.added := by simp [Shallow, nothing]
      exact ⟨fun _ => done.again_unchanged wf nothing, fun deep => absurd shallow deep⟩
    · exact done.again wf (done.written nothing)

theorem addReports_again_claimWith : ∃ files',
    addReports (claimWith "<a/>") "claim.json" "r" = .ok (⟨"claim.json", ["report"], []⟩, files') ∧
    addReports files' "claim.json" "r" = .ok (⟨"claim.json", [], ["report"]⟩, files') := by
  have converted : Xml.toJson "<a/>" = .ok (.object [("a", .string "")]) := by rfl
  obtain ⟨files', merged⟩ := addReports_claimWith converted
  obtain ⟨keys, -, perm, again, -⟩ := addReports_again (claimWith_wellFormed "<a/>") merged
  rw [List.perm_singleton.mp perm] at again
  refine ⟨files', merged, again fun key hk text value read converted' => ?_⟩
  cases List.mem_singleton.mp hk
  cases (readText_claimWith "<a/>").symm.trans read
  cases converted.symm.trans converted'
  decide

/-- Adding reports for a second time may fail: a report that nests deep makes a claim that cannot be
read again. -/
theorem addReports_may_not_repeat : ∃ files claim dir u files', files.WellFormed ∧
    addReports files claim dir = .ok (u, files') ∧ ∀ r, addReports files' claim dir ≠ .ok r := by
  obtain ⟨j, converted, height⟩ := Xml.toJson_nested resultDepth
  obtain ⟨files', merged⟩ := addReports_claimWith converted
  have wf := claimWith_wellFormed (Xml.nested resultDepth)
  refine ⟨_, _, _, _, files', wf, merged, fun r again => ?_⟩
  obtain ⟨done⟩ := addReports_done merged
  have deep : ¬Shallow (claimWith (Xml.nested resultDepth)) "r" ["report"] := by
    intro shallow
    have low := shallow "report" (by simp) _ j (readText_claimWith _) converted
    omega
  rw [(done.again wf (done.written (by simp))).2 deep] at again
  cases again

end Claim
end Resilience
