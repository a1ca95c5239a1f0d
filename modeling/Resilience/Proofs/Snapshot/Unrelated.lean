import Resilience.Proofs.Snapshot.Again
import Resilience.Proofs.Snapshot.Comparison
import Resilience.Proofs.Snapshot.Reload
/-! # Unrelated reports

The snapshot in a claim is read from the text as it stands, while merging reads the claim as a value
and writes it anew. For a claim whose numbers are integers this makes no difference: as long as no
certification report is added, the claim loads as the snapshot that it was.
-/
namespace Resilience

namespace Snapshot

open Json.Tree

variable {files files' : Files} {claim dir : String} {s : Snapshot} {u : ClaimUpdate}

/-- A whole claim that loads is taken for the same snapshot when its value is written. -/
theorem taken_of_load {document : Json} (loaded : load files claim = .ok s)
    (read : Claim.readDocument files claim = .ok document) (whole : document.Whole) :
    claimDocument? Json.maxDepth document.tree = some s := by
  obtain ⟨t, value, typed⟩ := denotes_of_load loaded read
  obtain ⟨s', again, same⟩ := Lasting.claimDocument Json.maxDepth t document s value typed
  rw [again, same whole]

theorem rawResults?_congr {results results' : Dict String Json} {d : Nat}
    (hr : Dict.Ascending results) (hr' : Dict.Ascending results')
    (same : Dict.find? results certificationKey = Dict.find? results' certificationKey) :
    rawResults? (d + 1) (Json.tree (.object results)) =
      rawResults? (d + 1) (Json.tree (.object results')) := by
  unfold rawResults?
  rw [wrapper?_object hr, wrapper?_object hr', ← certificationKey, same]

/-- A claim is taken for the same snapshot when results other than those of the certification are
put into it. -/
theorem claimDocument?_withRawResults {document : Json} {results merged : Dict String Json}
    {d : Nat} (proper : document.Proper) (first : Claim.rawResults document = .ok results)
    (hm : Json.Proper (.object merged))
    (same : Dict.find? merged certificationKey = Dict.find? results certificationKey) :
    claimDocument? (d + 3) (Claim.withRawResults document merged).tree =
      claimDocument? (d + 3) document.tree := by
  have moved := rawResults?_congr (d := d) hm.1 (Claim.rawResults_proper proper first).1 same
  obtain ⟨ms, cs, rfl, member, old⟩ := Claim.rawResults_eq first
  have hc := proper.find? member
  have inner := hc.insert hm "rawResults"
  have cases : defaulted [] rawResults? (d + 1) (some (Json.tree (.object merged))) =
      defaulted [] rawResults? (d + 1) ((Dict.find? cs "rawResults").map Json.tree) := by
    rcases old with ⟨none, rfl⟩ | old
    · rw [none]
      exact moved
    · rw [old]
      exact moved
  rw [Claim.withRawResults_object member,
    claimDocument?_object (proper.insert inner "claim").1 inner.1 (Dict.find?_insert_self _ _ _),
    claimDocument?_object proper.1 hc.1 member, Dict.find?_insert_self,
    Dict.find?_insert_of_ne _ _ (by decide), Option.map_some, cases]

/-- Reports under other keys than that of the certification do not disturb a snapshot: the claim
loads as what it was, and nothing differs in either direction. -/
theorem load_merged_unrelated {document : Json} (loaded : load files claim = .ok s)
    (read : Claim.readDocument files claim = .ok document) (whole : document.Whole)
    (merged : Claim.addReports files claim dir = .ok (u, files'))
    (unrelated : certificationKey ∉ u.added) :
    ∃ s', load files' claim = .ok s' ∧ s' = s ∧
      (s.difference s').isEmpty ∧ (s'.difference s).isEmpty := by
  have nothing := difference_self (load_ordered loaded)
  refine ⟨s, ?_, rfl, nothing, nothing⟩
  obtain ⟨done⟩ := Claim.addReports_done merged
  cases read.symm.trans done.read
  by_cases idle : u.added = []
  · rw [done.unchanged idle]
    exact loaded
  · have proper := Claim.readDocument_proper read
    have kept := done.grows.kept certificationKey (done.added ▸ unrelated)
    have taken : claimDocument? Json.maxDepth
        (Claim.withRawResults done.document done.merged.results).tree = some s :=
      (claimDocument?_withRawResults (d := Json.maxDepth - 3) proper done.first
        done.grows.proper kept).trans (taken_of_load loaded read whole)
    rw [load_written_eq (Claim.withRawResults_proper proper done.grows.proper)
      (done.written idle), taken]
    rfl

section Worker

def workerClaim : Json := .object [("claim", .object [("nodes", .object
  [("nodesHwInfo", .object [("worker", .object [("cpus", .nat 8)])])])])]

def workerSnapshot : Snapshot := ⟨[], [("worker", .object [("cpus", .nat 8)])], []⟩

def besidePlainReport (claim : Json) : Files :=
  ⟨[(["claim.json"], .text (claim.pretty ++ "\n")), (["r", "report.xml"], .text "<a/>")]⟩

def reportedClaim : Json :=
  Claim.withRawResults workerClaim [("report", .object [("a", .string "")])]

theorem workerClaim_proper : workerClaim.Proper := by
  simp [workerClaim, Json.Proper, Json.MembersProper, Dict.Ascending, Json.nat,
    Json.Number.Proper]

theorem workerClaim_whole : workerClaim.Whole := by
  simp [workerClaim, Json.Whole, Json.numbers, Json.membersNumbers, Json.nat, Json.Number.Whole]

theorem write_besidePlainReport : (besidePlainReport .null).write "claim.json"
    (workerClaim.pretty ++ "\n") = .ok (besidePlainReport workerClaim) := by decide +kernel

theorem read_besidePlainReport :
    Claim.readDocument (besidePlainReport workerClaim) "claim.json" = .ok workerClaim := by
  have read := Claim.readDocument_written workerClaim_proper write_besidePlainReport
  rwa [Json.value?_whole workerClaim_proper workerClaim_whole (by decide)] at read

theorem merges_besidePlainReport :
    Claim.addReports (besidePlainReport workerClaim) "claim.json" "r" =
      .ok (⟨"claim.json", ["report"], []⟩, besidePlainReport reportedClaim) := by
  have listed : Claim.reportNames (besidePlainReport workerClaim) "r" = .ok ["report.xml"] := by
    decide +kernel
  have text : (besidePlainReport workerClaim).readText (Path.join "r" "report.xml") =
      .ok "<a/>" := by decide +kernel
  have converted : Xml.toJson "<a/>" = .ok (.object [("a", .string "")]) := by rfl
  exact Claim.addReports_single read_besidePlainReport rfl listed (by decide +kernel) rfl
    (Claim.readReport_eq_ok text converted) (by decide +kernel)

theorem load_merged_unrelated_worker :
    ∃ s', load (besidePlainReport reportedClaim) "claim.json" = .ok s' ∧ s' = workerSnapshot ∧
      (workerSnapshot.difference s').isEmpty ∧ (s'.difference workerSnapshot).isEmpty := by
  have taken : claimDocument? Json.maxDepth workerClaim.tree = some workerSnapshot := by rfl
  have loaded := load_written_eq workerClaim_proper write_besidePlainReport
  rw [taken] at loaded
  exact load_merged_unrelated loaded read_besidePlainReport workerClaim_whole
    merges_besidePlainReport (by decide)

end Worker

end Snapshot
end Resilience
