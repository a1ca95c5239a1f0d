import Mathlib.Data.List.Nodup
import Resilience.Proofs.Command.Work
import Resilience.Proofs.Files
import Resilience.Proofs.Snapshot.Merge
/-! # What a claim gains

Reports are added to a claim all together or not at all. Every report of the directory is either
added or skipped, as its key was free in the claim or not, and a claim that is written differs from
what it was by the values of the reports that were added. A refusal has its reason, and leaves all
files as they were.
-/
namespace Resilience.Claim

open Resilience.Path (stem)

variable {files files' : Files} {dir claim : String} {m m' : Merged} {u : ClaimUpdate}

/-! ## Reports of a directory -/

structure IsReport (files : Files) (dir name : String) : Prop where
  extension : Path.extension? name = some "xml"
  plain : '/' ∉ name.toList
  file : files.isFile (Path.join dir name)

theorem isName_of_extension {name : String} (ext : Path.extension? name = some "xml")
    (plain : '/' ∉ name.toList) : Files.IsName name := by
  refine ⟨plain, ?_, ?_, ?_⟩ <;> rintro rfl <;> revert ext <;> decide +kernel

theorem reportNames_eq {names : List String} (h : reportNames files dir = .ok names) :
    ∃ listed, files.filesIn dir = .ok listed ∧
      names = listed.filter fun n => Path.extension? n = some "xml" := by
  unfold reportNames at h
  split at h
  · cases h
  · next listed found =>
    cases h
    exact ⟨listed, found, rfl⟩

theorem reportNames_ascending {names : List String} (wf : files.WellFormed)
    (h : reportNames files dir = .ok names) : names.Pairwise (· < ·) := by
  obtain ⟨listed, found, rfl⟩ := reportNames_eq h
  exact (Files.filesIn_ascending wf found).filter _

theorem mem_reportNames {names : List String} {name : String} (wf : files.WellFormed)
    (h : reportNames files dir = .ok names) : name ∈ names ↔ IsReport files dir name := by
  obtain ⟨listed, found, rfl⟩ := reportNames_eq h
  rw [List.mem_filter, decide_eq_true_eq]
  constructor
  · rintro ⟨inside, ext⟩
    have plain : '/' ∉ name.toList := by
      refine (Files.isPart_of_mem_filesIn wf found inside).resolve_left ?_
      rintro rfl
      exact absurd ext (by decide +kernel)
    exact ⟨ext, plain, (Files.mem_filesIn wf found (isName_of_extension ext plain)).mp inside⟩
  · rintro ⟨ext, plain, file⟩
    exact ⟨(Files.mem_filesIn wf found (isName_of_extension ext plain)).mpr file, ext⟩

/-- Reports have different keys. -/
theorem stem_injective {name other : String} (h : Path.extension? name = some "xml")
    (h' : Path.extension? other = some "xml") (same : stem name = stem other) : name = other := by
  rw [Path.eq_of_extension? h, Path.eq_of_extension? h', same]

theorem stems_nodup {names : List String} (wf : files.WellFormed)
    (h : reportNames files dir = .ok names) : (names.map stem).Nodup := by
  refine List.Nodup.map_on (fun name hn other ho => ?_) (reportNames_ascending wf h).nodup
  exact stem_injective ((mem_reportNames wf h).mp hn).extension
    ((mem_reportNames wf h).mp ho).extension

/-! ## Added and skipped -/

theorem addReport_results {name key : String} (step : addReport files dir m name = .ok m')
    (other : key ≠ stem name) : Dict.contains m'.results key = Dict.contains m.results key := by
  rcases addReport_cases step with ⟨-, rfl⟩ | ⟨-, j, -, rfl⟩
  · rfl
  · rw [Dict.contains, Dict.find?_insert_of_ne _ _ other, Dict.contains]

theorem addReport_keys {name : String} (step : addReport files dir m name = .ok m') :
    m'.added = m.added ++ [stem name].filter (fun key => !Dict.contains m.results key) ∧
    m'.skipped = m.skipped ++ [stem name].filter (Dict.contains m.results) := by
  rcases addReport_cases step with ⟨there, rfl⟩ | ⟨free, j, -, rfl⟩
  · simp [there]
  · simp [free]

/-- Of reports with different keys those are skipped whose keys were there at first. -/
theorem addReports_keys : ∀ {names : List String} {m m' : Merged}, (names.map stem).Nodup →
    names.foldlM (addReport files dir) m = .ok m' →
    m'.added = m.added ++ (names.map stem).filter (fun key => !Dict.contains m.results key) ∧
    m'.skipped = m.skipped ++ (names.map stem).filter (Dict.contains m.results)
  | [], m, m', _, run => by
    cases run
    simp
  | name :: names, m, m', different, run => by
    obtain ⟨apart, different⟩ := List.nodup_cons.mp different
    rw [List.foldlM_cons] at run
    obtain ⟨m₁, step, run⟩ := bind_eq_ok run
    have later : ∀ key ∈ names.map stem,
        Dict.contains m₁.results key = Dict.contains m.results key := by
      intro key hk
      refine addReport_results step ?_
      rintro rfl
      exact apart hk
    obtain ⟨added, skipped⟩ := addReport_keys step
    obtain ⟨more, rest⟩ := addReports_keys different run
    rw [List.filter_congr fun key hk => by rw [later key hk], added, List.append_assoc,
      ← List.filter_append] at more
    rw [List.filter_congr later, skipped, List.append_assoc, ← List.filter_append] at rest
    exact ⟨more, rest⟩

/-! ## The claim that is written -/

def result? (document : Json) (key : String) : Option Json :=
  document.at? ["claim", "rawResults", key]

theorem result?_of_rawResults {document : Json} {results : Dict String Json}
    (first : rawResults document = .ok results) (key : String) :
    result? document key = Dict.find? results key := by
  obtain ⟨ms, cs, rfl, member, ⟨none, rfl⟩ | old⟩ := rawResults_eq first
  · simp [result?, member, none]
  · simp [result?, member, old]

structure Extends (files : Files) (dir : String) (added : List String) (before after : Json) :
    Prop where
  proper : after.Proper
  document : ∀ key, key ≠ "claim" → after.at? [key] = before.at? [key]
  claim : ∀ key, key ≠ "rawResults" → after.at? ["claim", key] = before.at? ["claim", key]
  results : ∃ results, after.at? ["claim", "rawResults"] = some (.object results)
  kept : ∀ key, key ∉ added → result? after key = result? before key
  gained : ∀ key ∈ added, result? before key = none ∧ ∃ text value,
    files.readText (Path.join dir (key ++ ".xml")) = .ok text ∧ Xml.toJson text = .ok value ∧
    result? after key = some value

theorem Done.extends (done : Done files files' claim dir u) :
    Extends files dir u.added done.document (withRawResults done.document done.merged.results) := by
  have proper := readDocument_proper done.read
  have first := result?_of_rawResults done.first
  obtain ⟨ms, cs, same, member, -⟩ := rawResults_eq done.first
  have after : withRawResults (.object ms) done.merged.results = _ := withRawResults_object member
  rw [← same] at after
  have gained (key : String) : result? (withRawResults done.document done.merged.results) key =
      Dict.find? done.merged.results key := by
    rw [after]
    simp [result?]
  constructor
  case proper => exact withRawResults_proper proper done.grows.proper
  case document =>
    intro key other
    rw [after, same]
    simp [Dict.find?_insert_of_ne _ _ other]
  case claim =>
    intro key other
    rw [after, same]
    simp [member, Dict.find?_insert_of_ne _ _ other]
  case results => exact ⟨done.merged.results, by rw [after]; simp⟩
  case kept =>
    intro key other
    rw [gained, first]
    exact done.grows.kept key (done.added ▸ other)
  case gained =>
    intro key hk
    rw [done.added] at hk
    obtain ⟨text, root, read, parsed, found⟩ := added_report done hk
    refine ⟨(first key).trans (done.grows.added key hk).1, text, _, read, ?_,
      (gained key).trans found⟩
    rw [Xml.toJson, parsed]
    rfl

/-- What adding the reports of a directory comes to: these names, each added or skipped, and a
claim that gained the reports that were added. -/
structure Adds (files files' : Files) (claim dir : String) (document : Json) (names : List String)
    (u : ClaimUpdate) : Prop where
  read : readDocument files claim = .ok document
  ordered : names.Pairwise (· < ·)
  reports : ∀ name, name ∈ names ↔ IsReport files dir name
  keys : (names.map stem).Nodup
  update : u = ⟨claim, (names.map stem).filter fun key => (result? document key).isNone,
    (names.map stem).filter fun key => (result? document key).isSome⟩
  unchanged : u.added = [] → files' = files
  written : u.added ≠ [] → ∃ after, Extends files dir u.added document after ∧
    files'.readText claim = .ok (after.pretty ++ "\n") ∧
    ∀ path, Files.place? path ≠ Files.place? claim → files'.get? path = files.get? path

theorem Done.isFile (done : Done files files' claim dir u) : files.isFile claim := by
  obtain ⟨s, read, -⟩ := readDocument_eq done.read
  exact Files.isFile_of_read read

/-- The keys of the reports, parted by whether the claim had them. -/
theorem Done.parted (done : Done files files' claim dir u) (wf : files.WellFormed) :
    u.added = (done.names.map stem).filter (fun key => !Dict.contains done.results key) ∧
      u.skipped = (done.names.map stem).filter (Dict.contains done.results) := by
  obtain ⟨added, skipped⟩ := addReports_keys (stems_nodup wf done.listed) done.run
  exact ⟨done.added.trans added, done.skipped.trans skipped⟩

theorem Done.update (done : Done files files' claim dir u) (wf : files.WellFormed) :
    u = ⟨claim, (done.names.map stem).filter fun key => (result? done.document key).isNone,
      (done.names.map stem).filter fun key => (result? done.document key).isSome⟩ := by
  obtain ⟨added, skipped⟩ := done.parted wf
  have first := result?_of_rawResults done.first
  obtain ⟨name, us, vs⟩ := u
  rw [ClaimUpdate.mk.injEq]
  refine ⟨done.named, added.trans ?_, skipped.trans ?_⟩
  · refine List.filter_congr fun key _ => ?_
    rw [first, Dict.contains, Option.not_isSome]
  · refine List.filter_congr fun key _ => ?_
    rw [first, Dict.contains]

theorem Done.adds (done : Done files files' claim dir u) (wf : files.WellFormed) :
    Adds files files' claim dir done.document done.names u where
  read := done.read
  ordered := reportNames_ascending wf done.listed
  reports _ := mem_reportNames wf done.listed
  keys := stems_nodup wf done.listed
  update := done.update wf
  unchanged := done.unchanged
  written some_key := ⟨_, done.extends, Files.readText_write (done.written some_key),
    fun _ elsewhere => Files.get?_write wf done.isFile (done.written some_key) elsewhere⟩

/-! ## Refusals -/

/-- Why no report is added: the claim cannot be read, the directory cannot be listed, or a report
that is not in the claim cannot be converted. The first such report is told. -/
inductive Refused (files : Files) (claim dir : String) : ClaimError → Prop
  | unread {e : ClaimError} (failed : readDocument files claim = .error e) :
      Refused files claim dir e
  | noResults {document : Json} {reason : String} (read : readDocument files claim = .ok document)
      (failed : rawResults document = .error reason) :
      Refused files claim dir (.notClaim claim reason)
  | unlisted {e : ClaimError} (failed : reportNames files dir = .error e) :
      Refused files claim dir e
  | unconverted {document : Json} {before after : List String} {name : String} {e : ClaimError}
      (read : readDocument files claim = .ok document)
      (listed : reportNames files dir = .ok (before ++ name :: after))
      (earlier : ∀ n ∈ before, result? document (stem n) = none →
        ∃ j, readReport files (Path.join dir n) = .ok j)
      (free : result? document (stem name) = none)
      (failed : readReport files (Path.join dir name) = .error e) : Refused files claim dir e

/-- Merging stops at a report that is not there and cannot be converted. -/
theorem addReports_stuck {e : ClaimError} : ∀ {names : List String} {m : Merged},
    names.foldlM (addReport files dir) m = .error e → ∃ before name after m',
      names = before ++ name :: after ∧ before.foldlM (addReport files dir) m = .ok m' ∧
      ¬Dict.contains m'.results (stem name) ∧ readReport files (Path.join dir name) = .error e
  | [], m, run => by cases run
  | name :: names, m, run => by
    rw [List.foldlM_cons] at run
    rcases bind_eq_error run with stuck | ⟨m₁, step, run⟩
    · refine ⟨[], name, names, m, rfl, rfl, ?_⟩
      unfold addReport at stuck
      dsimp only at stuck
      split at stuck
      · cases stuck
      · next free =>
        rcases bind_eq_error stuck with failed | ⟨_, _, ⟨⟩⟩
        exact ⟨free, failed⟩
    · obtain ⟨before, other, after, m', rfl, done, stuck⟩ := addReports_stuck run
      refine ⟨name :: before, other, after, m', rfl, ?_, stuck⟩
      rw [List.foldlM_cons, step]
      exact done

theorem stuck_refused {document : Json} {results : Dict String Json} {names : List String}
    {e : ClaimError} (wf : files.WellFormed) (read : readDocument files claim = .ok document)
    (first : rawResults document = .ok results) (listed : reportNames files dir = .ok names)
    (stuck : names.foldlM (addReport files dir) ⟨results, [], []⟩ = .error e) :
    Refused files claim dir e := by
  obtain ⟨before, name, after, m, rfl, done, free, failed⟩ := addReports_stuck stuck
  have grows := (Grows.start read first before).addAll (fun _ hn => hn) done
  have was := result?_of_rawResults first
  refine .unconverted read listed (fun n hn new => ?_) ?_ failed
  · have nodup : (before.map stem).Nodup := by
      have all := stems_nodup wf listed
      rw [List.map_append] at all
      exact all.of_append_left
    have isAdded : stem n ∈ m.added := by
      rw [(addReports_keys nodup done).1, List.nil_append, List.mem_filter, Dict.contains,
        ← was, new]
      exact ⟨List.mem_map_of_mem hn, rfl⟩
    obtain ⟨-, n', hn', same, j, converted, -⟩ := grows.added _ isAdded
    have ext : ∀ n ∈ before, Path.extension? n = some "xml" := fun n hn =>
      ((mem_reportNames wf listed).mp (List.mem_append_left _ hn)).extension
    rw [stem_injective (ext n' hn') (ext n hn) same] at converted
    exact ⟨j, converted⟩
  · have kept : stem name ∉ m.added := by
      intro isAdded
      obtain ⟨-, _, -, -, j, -, found⟩ := grows.added _ isAdded
      rw [Dict.contains, found] at free
      exact free rfl
    rw [was, ← grows.kept _ kept]
    simpa [Dict.contains] using free

theorem addReports_refused {e : ClaimError} (wf : files.WellFormed)
    (h : addReports files claim dir = .error e) : Refused files claim dir e := by
  rcases bind_eq_error h with failed | ⟨document, read, h⟩
  · exact .unread failed
  rcases bind_eq_error h with failed | ⟨results, first, h⟩
  · obtain ⟨reason, missing, rfl⟩ := mapError_eq_error failed
    exact .noResults read missing
  have first := mapError_eq_ok first
  rcases bind_eq_error h with failed | ⟨names, listed, h⟩
  · exact .unlisted failed
  rcases bind_eq_error h with stuck | ⟨m, run, h⟩
  · exact stuck_refused wf read first listed stuck
  · -- the claim was read, so it can be written over
    obtain ⟨s, content, -⟩ := readDocument_eq read
    obtain ⟨after, written⟩ := Files.write_over (Files.isFile_of_read content)
      ((withRawResults document m.results).pretty ++ "\n")
    dsimp only at h
    rw [written] at h
    split at h <;> cases h

end Resilience.Claim

namespace Resilience.Command

variable {σ : Type} {t : Transcript σ} {claim dir : String} {output : Option String}

/-- A command that cannot merge changes nothing. -/
theorem addReports_failed {e : ClaimError}
    (h : Claim.addReports t.world.files claim dir = .error e) :
    (addReports claim dir output).run.run t = (.error (.coded e.code e.message), t) := by
  rw [addReports, bind_run (get_run t), h]
  rfl

theorem addReports_merged {u : ClaimUpdate} {files : Files}
    (h : Claim.addReports t.world.files claim dir = .ok (u, files)) :
    ∃ t', (addReports claim dir none).run.run t = (.ok 0, t') ∧
      t'.world = { t.world with files := files } := by
  have skips : Speaks (forIn u.skipped PUnit.unit fun key _ => do
      say s!"Skipping: {key} already exists in claim {claim}"
      pure (.yield PUnit.unit) : Work σ PUnit) ⟨⟩ := .each _ fun _ => .bind (.say _) (.pure _)
  obtain ⟨messages, run⟩ := skips { t with world.files := files }
  have taken : (orFail (fun e : ClaimError => .coded e.code e.message)
      (.ok (u, files)) : Work σ _).run.run t = (.ok (u, files), t) := rfl
  have kept : (set { t with world.files := files } : Work σ PUnit).run.run t =
      (.ok ⟨⟩, { t with world.files := files }) := rfl
  rw [addReports, bind_run (get_run t), h,
    bind_run taken, bind_run kept, bind_run run]
  by_cases changed : u.changed
  · simp only [changed]
    exact ⟨_, rfl, rfl⟩
  · simp only [changed]
    exact ⟨_, rfl, rfl⟩

/-- Reports are added to a claim all together, or for a reason not at all. -/
theorem addReports_all_or_nothing (claim dir : String) (wf : t.world.files.WellFormed) :
    match Claim.addReports t.world.files claim dir with
    | .error e => Claim.Refused t.world.files claim dir e ∧ ∀ output,
      (addReports claim dir output).run.run t = (.error (.coded e.code e.message), t)
    | .ok (u, files) =>
      (∃ document names, Claim.Adds t.world.files files claim dir document names u) ∧
      ∃ t', (addReports claim dir none).run.run t = (.ok 0, t') ∧
        t'.world = { t.world with files := files } := by
  split
  · next e failed =>
    exact ⟨Claim.addReports_refused wf failed, fun output => addReports_failed failed⟩
  · next u files merged =>
    obtain ⟨done⟩ := Claim.addReports_done merged
    exact ⟨⟨done.document, done.names, done.adds wf⟩, addReports_merged merged⟩

end Resilience.Command

namespace Resilience.Claim

open Resilience.Path (stem)

section OneReport

def emptyClaim : String := "\x7b\"claim\":\x7b\x7d\x7d"

def claimWith (report : String) : Files :=
  (Files.empty.put "claim.json" (.text emptyClaim)).put "r/report.xml" (.text report)

def claimBeside (name report : String) : Files :=
  (Files.empty.put "claim.json" (.text emptyClaim)).put (Path.join "r" name) (.text report)

theorem place_claim : Files.place? "claim.json" = some ["claim.json"] := by decide +kernel

theorem claim_open_end : "claim.json".endsWith "/" = false := by decide +kernel

theorem place_reports : Files.place? "r" = some ["r"] := by decide +kernel

variable {name report : String}

theorem claimBeside_wellFormed : (claimBeside name report).WellFormed :=
  (Files.WellFormed.empty.put _ _).put _ _

section Named

variable (isName : Files.IsName name)
include isName

theorem claimBeside_entries : (claimBeside name report).entries =
    [(["claim.json"], .text emptyClaim), (["r", name], .text report)] := by
  have behind : ¬(["r", name] : List String) < ["claim.json"] := by
    rw [List.cons_lt_cons_iff]
    rintro (before | ⟨same, -⟩)
    · exact absurd before (by decide)
    · exact absurd same (by decide)
  rw [claimBeside, Files.put, Files.place?_join isName place_reports, Files.put, place_claim]
  simp [Files.empty, Dict.insert, behind]

theorem read_claimBeside :
    (claimBeside name report).read "claim.json" = .ok (.text emptyClaim) := by
  rw [Files.read, Files.get?, place_claim]
  simp [Files.at?, claimBeside_entries isName, Dict.find?, claim_open_end]

theorem readDocument_claimBeside : readDocument (claimBeside name report) "claim.json" =
    .ok (.object [("claim", .object [])]) := by
  have parsed : Json.parse? emptyClaim = some (.object [("claim", .object [])]) := by rfl
  rw [readDocument, read_claimBeside isName]
  dsimp only
  rw [parsed]

theorem reportNames_claimBeside (ext : Path.extension? name = some "xml") :
    reportNames (claimBeside name report) "r" = .ok [name] := by
  have below : (claimBeside name report).at? ["r"] = some .directory := by
    simp [Files.at?, Files.holdsSomething, claimBeside_entries isName, Dict.find?]
  have directory : (claimBeside name report).get? "r" = .ok .directory := by
    rw [Files.get?, place_reports]
    simp [below]
  have listed : (claimBeside name report).filesIn "r" = .ok [name] := by
    refine Files.filesIn_eq_ok.mpr ⟨directory, ?_⟩
    rw [claimBeside_entries isName, place_reports]
    rfl
  rw [reportNames, listed]
  simp [ext]

theorem readText_claimBeside :
    (claimBeside name report).readText (Path.join "r" name) = .ok report := by
  rw [Files.readText, Files.read, Files.get?, Files.place?_join isName place_reports]
  simp [Files.at?, claimBeside_entries isName, Dict.find?, isName.join_not_endsWith]

theorem addReports_claimBeside (ext : Path.extension? name = some "xml") {j : Json}
    (h : Xml.toJson report = .ok j) :
    ∃ files', addReports (claimBeside name report) "claim.json" "r" =
      .ok (⟨"claim.json", [stem name], []⟩, files') := by
  have read := readReport_eq_ok (readText_claimBeside isName) h
  obtain ⟨files', written⟩ : ∃ files', (claimBeside name report).write "claim.json"
      ((withRawResults (.object [("claim", .object [])]) [(stem name, j)]).pretty ++ "\n") =
        .ok files' := by
    simp [Files.write, place_claim, Files.at?, claimBeside_entries isName, Dict.find?,
      claim_open_end]
  exact ⟨files', addReports_single (readDocument_claimBeside isName) rfl
    (reportNames_claimBeside isName ext) rfl rfl read written⟩

end Named

theorem report_isName : Files.IsName "report.xml" :=
  isName_of_extension (by decide +kernel) (by decide)

theorem claimWith_eq (report : String) : claimWith report = claimBeside "report.xml" report := by
  have path : Path.join "r" "report.xml" = "r/report.xml" := by decide +kernel
  rw [claimBeside, path, claimWith]

theorem claimWith_wellFormed (report : String) : (claimWith report).WellFormed :=
  (Files.WellFormed.empty.put _ _).put _ _

theorem readText_claimWith (report : String) :
    (claimWith report).readText (Path.join "r" "report.xml") = .ok report := by
  rw [claimWith_eq, readText_claimBeside report_isName]

theorem addReports_claimWith {j : Json} (h : Xml.toJson report = .ok j) :
    ∃ files', addReports (claimWith report) "claim.json" "r" =
      .ok (⟨"claim.json", ["report"], []⟩, files') := by
  have key : stem "report.xml" = "report" := by decide +kernel
  rw [claimWith_eq, ← key]
  exact addReports_claimBeside report_isName (by decide +kernel) h

theorem addReports_all_or_nothing_claimWith :
    (claimWith "<a/>").WellFormed ∧ ∃ files' document names, Adds (claimWith "<a/>") files'
      "claim.json" "r" document names ⟨"claim.json", ["report"], []⟩ := by
  have wf := claimWith_wellFormed "<a/>"
  have converted : Xml.toJson "<a/>" = .ok (.object [("a", .string "")]) := by rfl
  obtain ⟨files', merged⟩ := addReports_claimWith converted
  have all := Command.addReports_all_or_nothing (σ := Unit)
    (t := { world := ⟨claimWith "<a/>", [], none⟩ }) "claim.json" "r" wf
  simp only [merged] at all
  exact ⟨wf, files', all.1⟩

end OneReport

end Resilience.Claim
