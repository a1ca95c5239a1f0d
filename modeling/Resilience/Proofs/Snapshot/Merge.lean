import Resilience.Proofs.Except
import Resilience.Proofs.Xml.Record
import Resilience.Snapshot.Merge
/-! # What merging reports does

Every report that was added has its value under its key, which was free before; what lies under
other keys stays. The document that is written is as documents are read.
-/
namespace Resilience

theorem Text.cutLast?_eq {sep : Char} {s front back : String}
    (h : Text.cutLast? sep s = some (front, back)) :
    s.toList = front.toList ++ sep :: back.toList := by
  unfold Text.cutLast? at h
  dsimp only at h
  split at h
  · cases h
  · next c rest found =>
    cases h
    have sep_c : c = sep := by
      have head := List.head?_dropWhile_not (· ≠ sep) s.toList.reverse
      rw [found] at head
      simpa using head
    have whole := List.takeWhile_append_dropWhile (p := (· ≠ sep)) (l := s.toList.reverse)
    rw [found] at whole
    have back := congrArg List.reverse whole
    rw [List.reverse_append, List.reverse_reverse, List.reverse_cons, sep_c] at back
    rw [String.toList_ofList, String.toList_ofList]
    refine back.symm.trans ?_
    rw [List.append_assoc, List.singleton_append]

/-- A name with an extension is its stem, a dot and the extension. -/
theorem Path.eq_of_extension? {name ext : String} (h : Path.extension? name = some ext) :
    name = Path.stem name ++ "." ++ ext := by
  unfold Path.extension? at h
  unfold Path.stem
  split at h
  · next front back found =>
    split at h
    · cases h
    · next some_front =>
      cases h
      rw [if_neg some_front, ← String.toList_inj, Text.cutLast?_eq found]
      simp
  · cases h

namespace Claim

open Json (Inherited Proper)

variable {files files' : Files} {dir claim : String} {m m' : Merged}

theorem readReport_inherited {P : Json → Prop} (hP : Inherited P) {path : String} {j : Json}
    (h : readReport files path = .ok j) : P j := by
  unfold readReport at h
  split at h
  · cases h
  · split at h
    · cases h
    · next found =>
      cases h
      exact Xml.toJson_inherited hP found

theorem readReport_proper {path : String} {j : Json} (h : readReport files path = .ok j) :
    j.Proper :=
  readReport_inherited Proper.inherited h

theorem readReport_eq_ok {path text : String} {j : Json} (read : files.readText path = .ok text)
    (converted : Xml.toJson text = .ok j) : readReport files path = .ok j := by
  rw [readReport, read]
  dsimp only
  rw [converted]

/-- A report is skipped if its key is there; otherwise it is read and added. -/
theorem addReport_cases {name : String} (step : addReport files dir m name = .ok m') :
    (Dict.contains m.results (Path.stem name) ∧
      m' = { m with skipped := m.skipped ++ [Path.stem name] }) ∨
    (¬Dict.contains m.results (Path.stem name) ∧
      ∃ j, readReport files (Path.join dir name) = .ok j ∧ m' = { m with
        results := Dict.insert m.results (Path.stem name) j
        added := m.added ++ [Path.stem name] }) := by
  unfold addReport at step
  dsimp only at step
  split at step
  · next there =>
    cases step
    exact .inl ⟨there, rfl⟩
  · next free =>
    obtain ⟨j, read, step⟩ := bind_eq_ok step
    cases step
    exact .inr ⟨free, j, read, rfl⟩

/-- What holds of results on the way, seen from the results at first: what was added was free and
has the value of its report, and everything else stays. -/
structure Grows (files : Files) (dir : String) (names : List String) (first : Dict String Json)
    (m : Merged) : Prop where
  proper : Proper (.object m.results)
  kept : ∀ key, key ∉ m.added → Dict.find? m.results key = Dict.find? first key
  added : ∀ key ∈ m.added, Dict.find? first key = none ∧ ∃ name ∈ names, Path.stem name = key ∧
    ∃ j, readReport files (Path.join dir name) = .ok j ∧ Dict.find? m.results key = some j

theorem Grows.addReport {names : List String} {first : Dict String Json}
    (h : Grows files dir names first m) {name : String} (hn : name ∈ names)
    (step : addReport files dir m name = .ok m') : Grows files dir names first m' := by
  rcases addReport_cases step with ⟨-, rfl⟩ | ⟨free, j, read, rfl⟩
  · exact ⟨h.proper, h.kept, h.added⟩
  · have fresh : Path.stem name ∉ m.added := by
      intro old
      obtain ⟨-, n, -, -, i, -, found⟩ := h.added _ old
      rw [Dict.contains, found] at free
      exact free rfl
    refine ⟨h.proper.insert (readReport_proper read) _, fun key other => ?_, fun key hk => ?_⟩
    · rw [List.mem_append, List.mem_singleton, not_or] at other
      rw [Dict.find?_insert_of_ne _ _ other.2]
      exact h.kept key other.1
    · rcases List.mem_append.mp hk with hk | hk
      · have other : key ≠ Path.stem name := fun same => fresh (same ▸ hk)
        rw [Dict.find?_insert_of_ne _ _ other]
        exact h.added key hk
      · rw [List.mem_singleton.mp hk]
        refine ⟨?_, name, hn, rfl, j, read, Dict.find?_insert_self _ _ _⟩
        rw [← h.kept _ fresh]
        cases found : Dict.find? m.results (Path.stem name) with
        | none => rfl
        | some i =>
          rw [Dict.contains, found] at free
          exact absurd rfl free

theorem Grows.addAll {names rest : List String} {first : Dict String Json}
    (h : Grows files dir names first m) (inside : rest ⊆ names)
    (run : rest.foldlM (Claim.addReport files dir) m = .ok m') :
    Grows files dir names first m' :=
  foldlM_preserves (fun _ _ _ hn h step => h.addReport (inside hn) step) h run

theorem rawResults_eq {document : Json} {results : Dict String Json}
    (h : rawResults document = .ok results) : ∃ ms cs, document = .object ms ∧
      Dict.find? ms "claim" = some (.object cs) ∧
      (Dict.find? cs "rawResults" = none ∧ results = [] ∨
        Dict.find? cs "rawResults" = some (.object results)) := by
  unfold rawResults at h
  split at h
  · cases h
  · next cs found =>
    obtain ⟨value, member, object⟩ := Option.bind_eq_some_iff.mp found
    obtain ⟨ms, rfl⟩ : ∃ ms, document = .object ms := by
      cases document <;> first | exact ⟨_, rfl⟩ | cases member
    obtain rfl : value = .object cs := by
      cases value <;> cases object
      rfl
    refine ⟨ms, cs, rfl, member, ?_⟩
    split at h
    · next none =>
      cases h
      exact .inl ⟨none, rfl⟩
    · next old =>
      cases h
      exact .inr old
    · cases h

structure Done (files files' : Files) (claim dir : String) (u : ClaimUpdate) where
  document : Json
  results : Dict String Json
  names : List String
  merged : Merged
  read : readDocument files claim = .ok document
  first : rawResults document = .ok results
  listed : reportNames files dir = .ok names
  run : names.foldlM (Claim.addReport files dir) ⟨results, [], []⟩ = .ok merged
  grows : Grows files dir names results merged
  named : u.claim = claim
  added : u.added = merged.added
  skipped : u.skipped = merged.skipped
  unchanged : u.added = [] → files' = files
  written : u.added ≠ [] →
    files.write claim ((withRawResults document merged.results).pretty ++ "\n") = .ok files'

theorem rawResults_inherited {P : Json → Prop} (hP : Inherited P) {document : Json}
    {results : Dict String Json} (hd : P document) (h : rawResults document = .ok results) :
    P (.object results) := by
  obtain ⟨ms, cs, rfl, member, ⟨-, rfl⟩ | old⟩ := rawResults_eq h
  · exact hP.empty
  · exact hP.find? (hP.find? hd member) old

theorem rawResults_proper {document : Json} {results : Dict String Json} (proper : document.Proper)
    (h : rawResults document = .ok results) : Proper (.object results) :=
  rawResults_inherited Proper.inherited proper h

theorem readDocument_eq {document : Json} (h : readDocument files claim = .ok document) :
    ∃ s, files.read claim = .ok (.text s) ∧ Json.parse? s = some document := by
  unfold readDocument at h
  split at h
  · cases h
  · next s read =>
    split at h
    · next found =>
      cases h
      exact ⟨s, read, found⟩
    · cases h
  · cases h

theorem readDocument_proper {document : Json} (h : readDocument files claim = .ok document) :
    document.Proper := by
  obtain ⟨s, -, parsed⟩ := readDocument_eq h
  obtain ⟨t, -, value⟩ := Option.bind_eq_some_iff.mp parsed
  exact (Json.value?_spec value).1

theorem Grows.start {document : Json} {results : Dict String Json}
    (read : readDocument files claim = .ok document) (first : rawResults document = .ok results)
    (names : List String) : Grows files dir names results ⟨results, [], []⟩ :=
  ⟨rawResults_proper (readDocument_proper read) first, fun _ _ => rfl, by simp⟩

theorem addReports_done {u : ClaimUpdate} (h : addReports files claim dir = .ok (u, files')) :
    Nonempty (Done files files' claim dir u) := by
  obtain ⟨document, read, h⟩ := bind_eq_ok h
  obtain ⟨results, first, h⟩ := bind_eq_ok h
  obtain ⟨names, listed, h⟩ := bind_eq_ok h
  obtain ⟨m, run, h⟩ := bind_eq_ok h
  have first := mapError_eq_ok first
  have grows := (Grows.start read first names).addAll (fun _ hn => hn) run
  dsimp only at h
  split at h
  · next changed =>
    split at h
    · cases h
    · next after written =>
      cases h
      refine ⟨document, results, names, m, read, first, listed, run, grows, rfl, rfl, rfl, ?_,
        fun _ => written⟩
      intro none
      rw [ClaimUpdate.changed, none] at changed
      cases changed
  · next same =>
    cases h
    refine ⟨document, results, names, m, read, first, listed, run, grows, rfl, rfl, rfl,
      fun _ => rfl, ?_⟩
    intro some_key
    exact absurd (by simpa [ClaimUpdate.changed] using some_key) same

theorem addReports_eq_ok {document : Json} {results : Dict String Json} {names : List String}
    (read : readDocument files claim = .ok document) (first : rawResults document = .ok results)
    (listed : reportNames files dir = .ok names)
    (run : names.foldlM (Claim.addReport files dir) ⟨results, [], []⟩ = .ok m)
    (some_key : m.added ≠ [])
    (written : files.write claim ((withRawResults document m.results).pretty ++ "\n") =
      .ok files') : addReports files claim dir = .ok (⟨claim, m.added, m.skipped⟩, files') := by
  have changed : (ClaimUpdate.mk claim m.added m.skipped).changed = true := by
    simpa [ClaimUpdate.changed] using some_key
  rw [addReports, read]
  change Except.bind (Except.mapError _ _) _ = _
  rw [first, listed]
  change Except.bind (List.foldlM _ _ _) _ = _
  rw [run]
  dsimp only [Except.bind]
  rw [if_pos changed, written]
  rfl

/-- The only report of a directory is added if its key is free. -/
theorem addReports_single {document : Json} {results : Dict String Json} {name key : String}
    {j : Json} (read : readDocument files claim = .ok document)
    (first : rawResults document = .ok results) (listed : reportNames files dir = .ok [name])
    (stem : Path.stem name = key) (free : Dict.find? results key = none)
    (report : readReport files (Path.join dir name) = .ok j)
    (written : files.write claim
      ((withRawResults document (Dict.insert results key j)).pretty ++ "\n") = .ok files') :
    addReports files claim dir = .ok (⟨claim, [key], []⟩, files') := by
  refine addReports_eq_ok (m := ⟨Dict.insert results key j, [key], []⟩) read first listed ?_
    (by simp) written
  have fresh : Dict.contains results key = false := by rw [Dict.contains, free]; rfl
  rw [List.foldlM_cons, Claim.addReport, report, stem]
  dsimp only
  rw [fresh]
  rfl

theorem withRawResults_object {ms cs results : Dict String Json}
    (member : Dict.find? ms "claim" = some (.object cs)) :
    withRawResults (.object ms) results = .object (Dict.insert ms "claim"
      (.object (Dict.insert cs "rawResults" (.object results)))) := by
  rw [withRawResults, Json.member?_object, member]
  rfl

theorem withRawResults_inherited {P : Json → Prop} (hP : Inherited P) {document : Json}
    {results : Dict String Json} (hd : P document) (hr : P (.object results)) :
    P (withRawResults document results) := by
  unfold withRawResults
  split
  · next value member =>
    cases document <;> first | cases member | skip
    have inner := hP.find? hd member
    refine hP.insert hd ?_ "claim"
    cases value <;> first | exact inner | exact hP.insert inner hr "rawResults"
  · exact hd

theorem withRawResults_proper {document : Json} {results : Dict String Json}
    (proper : document.Proper) (hr : Proper (.object results)) :
    (withRawResults document results).Proper :=
  withRawResults_inherited Proper.inherited proper hr

/-- What stands under a key that was added is the report of that name. -/
theorem added_report {u : ClaimUpdate} (done : Done files files' claim dir u) {key : String}
    (h : key ∈ done.merged.added) : ∃ text root,
      files.readText (Path.join dir (key ++ ".xml")) = .ok text ∧
      Xml.Element.parse text = .ok root ∧
      Dict.find? done.merged.results key = some (.object [(root.name, root.toJson)]) := by
  obtain ⟨-, name, hn, stem, j, read, found⟩ := done.grows.added key h
  have listed := done.listed
  unfold reportNames at listed
  split at listed
  · cases listed
  · rw [← Except.ok.inj listed] at hn
    have ext := (List.mem_filter.mp hn).2
    have full := Path.eq_of_extension? (of_decide_eq_true ext)
    rw [stem, String.append_assoc, show "." ++ "xml" = ".xml" from rfl] at full
    rw [full] at read
    unfold readReport at read
    split at read
    · cases read
    · next text content =>
      split at read
      · cases read
      · next value converted =>
        cases read
        unfold Xml.toJson at converted
        cases parsed : Xml.Element.parse text with
        | error e =>
          rw [parsed] at converted
          cases converted
        | ok root =>
          rw [parsed] at converted
          cases converted
          exact ⟨text, root, content, parsed, found⟩

end Claim
end Resilience
