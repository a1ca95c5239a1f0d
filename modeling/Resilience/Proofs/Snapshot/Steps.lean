import Mathlib
import Resilience.Proofs.Json.Whole
import Resilience.Proofs.Snapshot.Again
/-! # Reports added in steps

The reports of two directories can be added one directory after the other, in either order, or from
one directory that holds all of them: the claim that is left is the same. Every step reads what the
one before has written, so the numbers of the claim have to be integers, and the claim must not be
one of the reports itself.
-/
namespace Resilience

namespace Dict

variable {κ α : Type} [DecidableEq κ] [LT κ] [DecidableLT κ]

theorem insert_insert (d : Dict κ α) (k : κ) (v w : α) :
    insert (insert d k v) k w = insert d k w := by
  induction d with
  | nil => simp [insert]
  | cons p d ih =>
    obtain ⟨k', v'⟩ := p
    simp only [insert]
    split_ifs with same less
    · simp [insert]
    · simp [insert]
    · rw [insert, if_neg same, if_neg less, ih]

end Dict

theorem Files.write_write {fs between after : Files} {path s t : String} (file : fs.isFile path)
    (first : fs.write path s = .ok between) (second : between.write path t = .ok after) :
    fs.write path t = .ok after := by
  obtain ⟨direct, written⟩ := write_over file t
  obtain ⟨place, found, rfl⟩ := write_eq first
  obtain ⟨_, found', rfl⟩ := write_eq second
  obtain ⟨_, found'', rfl⟩ := write_eq written
  cases found.symm.trans found'
  cases found.symm.trans found''
  rw [written, Dict.insert_insert]

namespace Claim

open Json (Proper Whole)
open Resilience.Path (stem)

variable {files between files' : Files} {claim dir : String} {u : ClaimUpdate}
  {document : Json} {results merged : Dict String Json}

theorem withRawResults_withRawResults {results later : Dict String Json}
    (first : rawResults document = .ok results) :
    withRawResults (withRawResults document merged) later = withRawResults document later := by
  obtain ⟨ms, cs, rfl, member, -⟩ := rawResults_eq first
  rw [withRawResults_object member, withRawResults_object (Dict.find?_insert_self _ _ _),
    withRawResults_object member, Dict.insert_insert, Dict.insert_insert]

theorem rawResults_withRawResults (first : rawResults document = .ok results) :
    rawResults (withRawResults document merged) = .ok merged := by
  obtain ⟨ms, cs, rfl, member, -⟩ := rawResults_eq first
  unfold rawResults
  rw [withRawResults_object member, Json.member?_object, Dict.find?_insert_self, Option.bind_some,
    Json.members?]
  dsimp only
  rw [Dict.find?_insert_self]

def Offers (files : Files) (dir key : String) (j : Json) : Prop :=
  IsReport files dir (key ++ ".xml") ∧ readReport files (Path.join dir (key ++ ".xml")) = .ok j

/-- What merging comes to, told without the order of its steps: every value on offer is added under
its key if that was free, and the claim is written if there was one to add. -/
structure Gains (files files' : Files) (claim : String) (document : Json)
    (results merged : Dict String Json) (offered : String → Json → Prop) : Prop where
  first : rawResults document = .ok results
  proper : Proper (.object results) ∧ Proper (.object merged)
  found : ∀ key j, Dict.find? merged key = some j ↔
    Dict.find? results key = some j ∨ Dict.find? results key = none ∧ offered key j
  idle : (∀ key j, offered key j → Dict.find? results key ≠ none) → files' = files
  written : ∀ key j, offered key j → Dict.find? results key = none →
    files.write claim ((withRawResults document merged).pretty ++ "\n") = .ok files'

/-! ## One step -/

theorem stem_of_report {key : String} (report : Path.extension? (key ++ ".xml") = some "xml") :
    stem (key ++ ".xml") = key := by
  have whole := Path.eq_of_extension? report
  rw [String.append_assoc, show "." ++ "xml" = ".xml" from rfl] at whole
  exact (String.append_left_inj ".xml").mp whole.symm

namespace Done

variable (done : Done files files' claim dir u) (wf : files.WellFormed)
include wf

theorem offers_of_added {key : String} (h : key ∈ done.merged.added) :
    Dict.find? done.results key = none ∧
      ∃ j, Offers files dir key j ∧ Dict.find? done.merged.results key = some j := by
  obtain ⟨free, name, hn, rfl, j, read, found⟩ := done.grows.added key h
  have report := (mem_reportNames wf done.listed).mp hn
  have same : name = stem name ++ ".xml" :=
    (Path.eq_of_extension? report.extension).trans (String.append_assoc ..)
  refine ⟨free, j, ⟨?_, ?_⟩, found⟩
  · rwa [← same]
  · rwa [← same]

theorem added_of_offers {key : String} {j : Json} (offer : Offers files dir key j)
    (free : Dict.find? done.results key = none) : key ∈ done.merged.added := by
  have here := done.there wf _ ((mem_reportNames wf done.listed).mpr offer.1)
  rw [stem_of_report offer.1.extension] at here
  by_contra other
  rw [Dict.contains, done.grows.kept key other, free] at here
  cases here

theorem gains : Gains files files' claim done.document done.results done.merged.results
    (Offers files dir) where
  first := done.first
  proper := ⟨rawResults_proper (readDocument_proper done.read) done.first, done.grows.proper⟩
  found key j := by
    by_cases hk : key ∈ done.merged.added
    · obtain ⟨free, i, offer, found⟩ := done.offers_of_added wf hk
      rw [found, free, Option.some.injEq]
      constructor
      · rintro rfl
        exact .inr ⟨rfl, offer⟩
      · rintro (⟨⟨⟩⟩ | ⟨-, offer'⟩)
        exact Except.ok.inj (offer.2.symm.trans offer'.2)
    · rw [done.grows.kept key hk]
      refine ⟨.inl, fun h => h.resolve_right ?_⟩
      rintro ⟨free, offer⟩
      exact hk (done.added_of_offers wf offer free)
  idle there := by
    refine done.unchanged (List.eq_nil_iff_forall_not_mem.mpr fun key hk => ?_)
    obtain ⟨free, j, offer, -⟩ := done.offers_of_added wf (done.added ▸ hk)
    exact there key j offer free
  written key j offer free := by
    refine done.written (List.ne_nil_of_mem (a := key) ?_)
    rw [done.added]
    exact done.added_of_offers wf offer free

end Done

/-! ## Steps put together -/

namespace Gains

variable {offered offered' : String → Json → Prop} {later : Dict String Json}

theorem congr (h : Gains files files' claim document results merged offered)
    (same : ∀ key j, offered key j ↔ offered' key j) :
    Gains files files' claim document results merged offered' := by
  obtain rfl : offered = offered' := funext fun key => funext fun j => propext (same key j)
  exact h

/-- What is on offer decides about the files. -/
theorem unique {merged' : Dict String Json} {after : Files}
    (h : Gains files files' claim document results merged offered)
    (h' : Gains files after claim document results merged' offered')
    (same : ∀ key j, offered key j ↔ offered' key j) : files' = after := by
  have all : merged = merged' := by
    refine h.proper.2.1.ext h'.proper.2.1 fun key => Option.ext fun j => ?_
    rw [h.found, h'.found, same]
  by_cases fresh : ∃ key j, offered key j ∧ Dict.find? results key = none
  · obtain ⟨key, j, offer, free⟩ := fresh
    have written := h'.written key j ((same key j).mp offer) free
    rw [← all, h.written key j offer free] at written
    exact Except.ok.inj written
  · push Not at fresh
    rw [h.idle fresh, h'.idle fun key j offer => fresh key j ((same key j).mpr offer)]

theorem results_eq (h : Gains files files' claim document results merged offered)
    (there : ∀ key j, offered key j → Dict.find? results key ≠ none) : merged = results := by
  refine h.proper.2.1.ext h.proper.1.1 fun key => Option.ext fun j => ?_
  rw [h.found]
  exact ⟨fun found => found.resolve_right fun ⟨free, offer⟩ => there key j offer free, .inl⟩

/-- A key is free behind a step if it was free before and nothing was on offer for it. -/
theorem free_iff (h : Gains files files' claim document results merged offered) (key : String) :
    Dict.find? merged key = none ↔ Dict.find? results key = none ∧ ∀ j, ¬offered key j := by
  constructor
  · intro free
    have old : Dict.find? results key = none := by
      refine Option.eq_none_iff_forall_ne_some.mpr fun j found => ?_
      rw [(h.found key j).mpr (.inl found)] at free
      cases free
    refine ⟨old, fun j offer => ?_⟩
    rw [(h.found key j).mpr (.inr ⟨old, offer⟩)] at free
    cases free
  · rintro ⟨free, none⟩
    refine Option.eq_none_iff_forall_ne_some.mpr fun j found => ?_
    rcases (h.found key j).mp found with old | ⟨-, offer⟩
    · rw [free] at old
      cases old
    · exact none j offer

theorem whole (h : Gains files files' claim document results merged offered)
    (old : document.Whole) (values : ∀ key j, offered key j → j.Whole) :
    (withRawResults document merged).Whole := by
  refine withRawResults_inherited Whole.inherited old (Whole.object_iff.mpr fun m hm => ?_)
  rcases (h.found m.1 m.2).mp (h.proper.2.1.find?_eq_some hm) with found | ⟨-, offer⟩
  · exact Whole.inherited.find? (rawResults_inherited Whole.inherited old h.first) found
  · exact values m.1 m.2 offer

/-- The claim that a step leaves is read as what was written. -/
theorem readDocument_eq {again : Json}
    (h : Gains files files' claim document results merged offered)
    (read : readDocument files claim = .ok document) (old : document.Whole)
    (values : ∀ key j, offered key j → j.Whole) (reread : readDocument files' claim = .ok again) :
    (∀ key j, offered key j → Dict.find? results key ≠ none) ∧ again = document ∨
      (∃ key j, offered key j ∧ Dict.find? results key = none) ∧
        again = withRawResults document merged := by
  by_cases fresh : ∃ key j, offered key j ∧ Dict.find? results key = none
  · refine .inr ⟨fresh, ?_⟩
    obtain ⟨key, j, offer, free⟩ := fresh
    have proper := withRawResults_proper (readDocument_proper read) h.proper.2
    rw [readDocument_written proper (h.written key j offer free)] at reread
    cases value : (withRawResults document merged).tree.value? Json.maxDepth with
    | none =>
      rw [value] at reread
      cases reread
    | some i =>
      rw [value] at reread
      cases reread
      exact Json.eq_of_value?_tree proper (h.whole old values) value
  · push Not at fresh
    rw [h.idle fresh, read] at reread
    cases reread
    exact .inl ⟨fresh, rfl⟩

/-- Two steps come to one step with what either of them has on offer. -/
theorem trans {again : Json} {kept : Dict String Json}
    (h : Gains files between claim document results merged offered)
    (h' : Gains between files' claim again kept later offered')
    (read : readDocument files claim = .ok document) (old : document.Whole)
    (values : ∀ key j, offered key j → j.Whole) (reread : readDocument between claim = .ok again)
    (apart : ∀ key i j, offered key i → ¬offered' key j) :
    Gains files files' claim document results later fun key j =>
      offered key j ∨ offered' key j := by
  have file : files.isFile claim := by
    obtain ⟨s, found, -⟩ := Claim.readDocument_eq read
    exact Files.isFile_of_read found
  have step := h.readDocument_eq read old values reread
  -- what the second step finds in the claim is what the first has left there
  obtain rfl : kept = merged := by
    rcases step with ⟨there, rfl⟩ | ⟨-, rfl⟩
    · rw [h.results_eq there]
      exact Except.ok.inj (h'.first.symm.trans h.first)
    · exact Except.ok.inj (h'.first.symm.trans (rawResults_withRawResults h.first))
  refine ⟨h.first, ⟨h.proper.1, h'.proper.2⟩, fun key j => ?_, fun there => ?_,
    fun key j offer free => ?_⟩
  · rw [h'.found, h.found, h.free_iff]
    constructor
    · rintro ((found | ⟨free, offer⟩) | ⟨⟨free, -⟩, offer⟩)
      · exact .inl found
      · exact .inr ⟨free, .inl offer⟩
      · exact .inr ⟨free, .inr offer⟩
    · rintro (found | ⟨free, offer | offer⟩)
      · exact .inl (.inl found)
      · exact .inl (.inr ⟨free, offer⟩)
      · exact .inr ⟨⟨free, fun i other => apart key i j other offer⟩, offer⟩
  · have first := h.idle fun key j offer => there key j (.inl offer)
    rw [h'.idle fun key j offer free => there key j (.inr offer) ((h.free_iff key).mp free).1, first]
  · rcases step with ⟨there, rfl⟩ | ⟨⟨key₁, j₁, offer₁, free₁⟩, rfl⟩
    · have nothing := h.idle there
      subst nothing
      have second := offer.resolve_left fun offer => there key j offer free
      exact h'.written key j second
        ((h.free_iff key).mpr ⟨free, fun i other => apart key i j other second⟩)
    · have first := h.written key₁ j₁ offer₁ free₁
      by_cases fresh : ∃ key j, offered' key j ∧ Dict.find? kept key = none
      · obtain ⟨key₂, j₂, offer₂, free₂⟩ := fresh
        have second := h'.written key₂ j₂ offer₂ free₂
        rw [withRawResults_withRawResults h.first] at second
        exact Files.write_write file first second
      · push Not at fresh
        rw [h'.results_eq fresh, h'.idle fresh]
        exact first

end Gains

/-! ## Two directories -/

def Outside (files : Files) (claim dir : String) : Prop :=
  ∀ name, IsReport files dir name → Files.place? (Path.join dir name) ≠ Files.place? claim

def Apart (files : Files) (dir dir' : String) : Prop :=
  ∀ name name', IsReport files dir name → IsReport files dir' name' → stem name ≠ stem name'

structure HoldsBoth (files : Files) (all dir dir' : String) : Prop where
  reports : ∀ name, IsReport files all name ↔ IsReport files dir name ∨ IsReport files dir' name
  left : ∀ name, IsReport files dir name →
    files.readText (Path.join all name) = files.readText (Path.join dir name)
  right : ∀ name, IsReport files dir' name →
    files.readText (Path.join all name) = files.readText (Path.join dir' name)

theorem Apart.symm {dir' : String} (h : Apart files dir dir') : Apart files dir' dir :=
  fun name name' report report' => (h name' name report' report).symm

theorem readReport_congr {after : Files} {path path' : String}
    (same : after.readText path' = files.readText path)
    (j : Json) : readReport after path' = .ok j ↔ readReport files path = .ok j := by
  unfold readReport
  rw [same]
  cases files.readText path with
  | error e => simp
  | ok text =>
    dsimp only
    cases Xml.toJson text <;> simp

theorem Offers.whole {key : String} {j : Json} (h : Offers files dir key j) : j.Whole :=
  readReport_inherited Whole.inherited h.2

theorem Apart.offers {dir' key : String} (h : Apart files dir dir') {i j : Json}
    (offer : Offers files dir key i) : ¬Offers files dir' key j :=
  fun offer' => h _ _ offer.1 offer'.1 rfl

theorem HoldsBoth.offers {all dir dir' key : String} (h : HoldsBoth files all dir dir') (j : Json) :
    Offers files all key j ↔ Offers files dir key j ∨ Offers files dir' key j := by
  unfold Offers
  rw [h.reports]
  constructor
  · rintro ⟨report | report, read⟩
    · exact .inl ⟨report, (readReport_congr (h.left _ report) j).mp read⟩
    · exact .inr ⟨report, (readReport_congr (h.right _ report) j).mp read⟩
  · rintro (⟨report, read⟩ | ⟨report, read⟩)
    · exact ⟨.inl report, (readReport_congr (h.left _ report) j).mpr read⟩
    · exact ⟨.inr report, (readReport_congr (h.right _ report) j).mpr read⟩

/-- A step leaves alone what other directories have on offer. -/
theorem Done.offers_iff {other key : String} {names : List String} {j : Json}
    (done : Done files files' claim dir u) (wf : files.WellFormed)
    (listed : reportNames files other = .ok names) (outside : Outside files claim other) :
    Offers files' other key j ↔ Offers files other key j := by
  by_cases idle : u.added = []
  · rw [done.unchanged idle]
  · have written := done.written idle
    have listed' := reportNames_write wf done.isFile written listed
    unfold Offers
    rw [← mem_reportNames (wf.write written) listed', ← mem_reportNames wf listed]
    refine and_congr_right fun hn => readReport_congr ?_ j
    have elsewhere := outside _ ((mem_reportNames wf listed).mp hn)
    rw [Files.readText, Files.readText, Files.read, Files.read,
      Files.get?_write wf done.isFile written elsewhere]

theorem Done.wellFormed (done : Done files files' claim dir u) (wf : files.WellFormed) :
    files'.WellFormed := by
  by_cases idle : u.added = []
  · rw [done.unchanged idle]
    exact wf
  · exact wf.write (done.written idle)

variable {dir' : String} {u' : ClaimUpdate}

theorem gains_of_two_steps {names : List String} (wf : files.WellFormed)
    (read : readDocument files claim = .ok document) (whole : document.Whole)
    (first : rawResults document = .ok results) (apart : Apart files dir dir')
    (listed : reportNames files dir' = .ok names) (outside : Outside files claim dir')
    (h : addReports files claim dir = .ok (u, between))
    (h' : addReports between claim dir' = .ok (u', files')) :
    ∃ later, Gains files files' claim document results later fun key j =>
      Offers files dir key j ∨ Offers files dir' key j := by
  obtain ⟨done⟩ := addReports_done h
  obtain ⟨done'⟩ := addReports_done h'
  cases read.symm.trans done.read
  cases first.symm.trans done.first
  have second := (done'.gains (done.wellFormed wf)).congr fun key j =>
    done.offers_iff wf listed outside
  exact ⟨_, (done.gains wf).trans second read whole (fun _ _ offer => offer.whole) done'.read
    fun key i j => apart.offers⟩

/-- The files that are left when the reports of two directories are added forth, back and at once. -/
structure Steps (files : Files) (claim first second all : String) (forth back once : Files) :
    Prop where
  forth : ∃ u between u', addReports files claim first = .ok (u, between) ∧
    addReports between claim second = .ok (u', forth)
  back : ∃ u between u', addReports files claim second = .ok (u, between) ∧
    addReports between claim first = .ok (u', back)
  once : ∃ u, addReports files claim all = .ok (u, once)

/-- For a claim whose numbers are integers and that is no report itself, adding the reports of two
directories one after the other, in either order, leaves the same files as adding them at once. -/
theorem addReports_in_steps {first second all : String} {forth back once : Files}
    (wf : files.WellFormed) (read : readDocument files claim = .ok document)
    (whole : document.Whole) (apart : Apart files first second)
    (both : HoldsBoth files all first second) (outside : Outside files claim first)
    (outside' : Outside files claim second)
    (steps : Steps files claim first second all forth back once) :
    forth = once ∧ back = once := by
  obtain ⟨u₁, files₁, u₁₂, h₁, h₁₂⟩ := steps.forth
  obtain ⟨u₂, files₂, u₂₁, h₂, h₂₁⟩ := steps.back
  obtain ⟨u, h⟩ := steps.once
  obtain ⟨done₁⟩ := addReports_done h₁
  obtain ⟨done₂⟩ := addReports_done h₂
  obtain ⟨done⟩ := addReports_done h
  cases read.symm.trans done.read
  have all_gains := done.gains wf
  obtain ⟨_, forth_gains⟩ :=
    gains_of_two_steps wf read whole done.first apart done₂.listed outside' h₁ h₁₂
  obtain ⟨_, back_gains⟩ :=
    gains_of_two_steps wf read whole done.first apart.symm done₁.listed outside h₂ h₂₁
  constructor
  · exact forth_gains.unique all_gains fun key j => (both.offers j).symm
  · exact back_gains.unique all_gains fun key j => or_comm.trans (both.offers j).symm

section Polyglot

/-- A claim that can be converted as a report, too. -/
def polyglot : String := "\x7b\"claim\":\x7b\"<a>\":\"</a>\"\x7d\x7d"

def polyglotClaim : Json := .object [("claim", .object [("<a>", .string "</a>")])]

def threeDirectories : Files :=
  ⟨[(["d", "claim.xml"], .text polyglot), (["r", "report.xml"], .text "<b/>"),
    (["t", "claim.xml"], .text polyglot), (["t", "report.xml"], .text "<b/>")]⟩

/-- The directories with a claim of this text, which may be one of the reports. -/
def among (place : List String) (text : String) : Files :=
  ⟨Dict.insert threeDirectories.entries place (.text text)⟩

def written (results : Dict String Json) : String :=
  (withRawResults polyglotClaim results).pretty ++ "\n"

def plainResult : String × Json := ("report", .object [("b", .string "")])

def ownResult (content : String) : String × Json := ("claim", .object [("a", .string content)])

structure LeadsTo (path : String) (place : List String) : Prop where
  place : Files.place? path = some place
  open_end : path.endsWith "/" = false

theorem claim_leads : LeadsTo "claim.json" ["claim.json"] := ⟨place_claim, claim_open_end⟩

theorem own_leads : LeadsTo "d/claim.xml" ["d", "claim.xml"] :=
  ⟨by decide +kernel, by decide +kernel⟩

theorem threeDirectories_wellFormed : threeDirectories.WellFormed := by
  have made : threeDirectories =
      (((Files.empty.put "d/claim.xml" (.text polyglot)).put "r/report.xml" (.text "<b/>")).put
        "t/claim.xml" (.text polyglot)).put "t/report.xml" (.text "<b/>") := by decide +kernel
  rw [made]
  exact (((Files.WellFormed.empty.put _ _).put _ _).put _ _).put _ _

variable {path : String} {place : List String} (leads : LeadsTo path place)
include leads

theorem among_wellFormed (text : String) : (among place text).WellFormed :=
  threeDirectories_wellFormed.insert (Files.place?_parted leads.place) _

theorem write_among (s t : String) : (among place s).write path t = .ok (among place t) := by
  unfold Files.write Files.at?
  rw [leads.place]
  dsimp only
  rw [among, Dict.find?_insert_self]
  simp [leads.open_end, Dict.insert_insert, among]

theorem readDocument_polyglot : readDocument (among place polyglot) path = .ok polyglotClaim := by
  have parsed : Json.parse? polyglot = some polyglotClaim := by cbv
  rw [readDocument, Files.read_of_readText (Files.readText_write (write_among leads "" polyglot))]
  dsimp only
  rw [parsed]

omit leads in
theorem polyglotClaim_whole : polyglotClaim.Whole := by
  simp [polyglotClaim, Whole, Json.numbers, Json.membersNumbers]

theorem readDocument_single {key name value : String} (low : (withRawResults polyglotClaim
      [(key, .object [(name, .string value)])]).height ≤ Json.maxDepth) :
    readDocument (among place (written [(key, .object [(name, .string value)])])) path =
      .ok (withRawResults polyglotClaim [(key, .object [(name, .string value)])]) := by
  have proper : (withRawResults polyglotClaim [(key, .object [(name, .string value)])]).Proper :=
    withRawResults_proper ⟨.singleton _, ⟨.singleton _, trivial, trivial⟩, trivial⟩
      ⟨.singleton _, ⟨.singleton _, trivial, trivial⟩, trivial⟩
  have whole : (withRawResults polyglotClaim [(key, .object [(name, .string value)])]).Whole :=
    withRawResults_inherited Whole.inherited polyglotClaim_whole
      (by simp [Whole, Json.numbers, Json.membersNumbers])
  have read := readDocument_written proper (write_among leads "" (written _))
  rwa [Json.value?_whole proper whole low] at read

theorem adds_first {dir name key : String} {value : Json}
    (listed : reportNames (among place polyglot) dir = .ok [name]) (same : stem name = key)
    (report : readReport (among place polyglot) (Path.join dir name) = .ok value) :
    addReports (among place polyglot) path dir =
      .ok (⟨path, [key], []⟩, among place (written [(key, value)])) :=
  addReports_single (readDocument_polyglot leads) rfl listed same rfl report
    (write_among leads _ _)

theorem adds_second {dir file key key' name content : String} {value : Json}
    {later : Dict String Json} (low : (withRawResults polyglotClaim
      [(key, .object [(name, .string content)])]).height ≤ Json.maxDepth)
    (listed : reportNames (among place (written [(key, .object [(name, .string content)])])) dir =
      .ok [file]) (same : stem file = key') (free : key' ≠ key)
    (report : readReport (among place (written [(key, .object [(name, .string content)])]))
      (Path.join dir file) = .ok value)
    (inserted : Dict.insert [(key, .object [(name, .string content)])] key' value = later) :
    addReports (among place (written [(key, .object [(name, .string content)])])) path dir =
      .ok (⟨path, [key'], []⟩, among place (written later)) := by
  have results : rawResults polyglotClaim = .ok [] := rfl
  refine addReports_single (readDocument_single leads low) (rawResults_withRawResults results)
    listed same (by simp [Dict.find?, free]) report ?_
  rw [withRawResults_withRawResults results, inserted]
  exact write_among leads _ _

theorem adds_both
    (listed : reportNames (among place polyglot) "t" = .ok ["claim.xml", "report.xml"])
    (own : readReport (among place polyglot) (Path.join "t" "claim.xml") = .ok (ownResult "\":\"").2)
    (plain : readReport (among place polyglot) (Path.join "t" "report.xml") = .ok plainResult.2) :
    addReports (among place polyglot) path "t" = .ok (⟨path, ["claim", "report"], []⟩,
      among place (written [ownResult "\":\"", plainResult])) := by
  have stems : stem "claim.xml" = "claim" ∧ stem "report.xml" = "report" := by decide +kernel
  refine addReports_eq_ok (m := ⟨[ownResult "\":\"", plainResult], ["claim", "report"], []⟩)
    (readDocument_polyglot leads) rfl listed ?_ (by simp) (write_among leads _ _)
  rw [List.foldlM_cons, addReport, own, stems.1]
  change Except.bind (addReport _ _ _ _) _ = _
  rw [addReport, plain, stems.2]
  rfl

structure Held (files : Files) : Prop where
  plain : reportNames files "r" = .ok ["report.xml"]
  own : reportNames files "d" = .ok ["claim.xml"]
  all : reportNames files "t" = .ok ["claim.xml", "report.xml"]
  texts : files.readText (Path.join "d" "claim.xml") = .ok polyglot ∧
    files.readText (Path.join "t" "claim.xml") = .ok polyglot ∧
    files.readText (Path.join "r" "report.xml") = .ok "<b/>" ∧
    files.readText (Path.join "t" "report.xml") = .ok "<b/>"

omit leads in
theorem Held.apart (held : Held files) (wf : files.WellFormed) : Apart files "r" "d" := by
  intro name name' report report'
  have plain := (mem_reportNames wf held.plain).mpr report
  have own := (mem_reportNames wf held.own).mpr report'
  rw [List.mem_singleton.mp plain, List.mem_singleton.mp own]
  decide +kernel

omit leads in
theorem Held.both (held : Held files) (wf : files.WellFormed) : HoldsBoth files "t" "r" "d" := by
  obtain ⟨own, own', plain, plain'⟩ := held.texts
  refine ⟨fun name => ?_, fun name report => ?_, fun name report => ?_⟩
  · rw [← mem_reportNames wf held.all, ← mem_reportNames wf held.plain,
      ← mem_reportNames wf held.own]
    simp [or_comm]
  · rw [List.mem_singleton.mp ((mem_reportNames wf held.plain).mpr report), plain, plain']
  · rw [List.mem_singleton.mp ((mem_reportNames wf held.own).mpr report), own, own']

omit leads in
theorem held_beside : Held (among ["claim.json"] polyglot) := by
  constructor <;> decide +kernel

omit leads in
theorem held_own : Held (among ["d", "claim.xml"] polyglot) := by
  constructor <;> decide +kernel

omit leads in
theorem converts_plain : Xml.toJson "<b/>" = .ok plainResult.2 := by rfl

omit leads in
theorem converts_polyglot : Xml.toJson polyglot = .ok (ownResult "\":\"").2 := by cbv

set_option maxRecDepth 20000 in
omit leads in
/-- Written on lines the claim has a blank more between its tags. -/
theorem converts_written : Xml.toJson (written [plainResult]) = .ok (ownResult "\": \"").2 := by
  have text : written [plainResult] = "\x7b\n  \"claim\": \x7b\n    \"<a>\": \"</a>\",\n" ++
      "    \"rawResults\": \x7b\n      \"report\": \x7b\n        \"b\": \"\"\n      \x7d\n" ++
      "    \x7d\n  \x7d\n\x7d\n" := by decide +kernel
  rw [text]
  cbv

/-- The two orders and the single step, for a claim in which the plain report is read first as it
was and then the claim as `content`. -/
theorem steps_among (content : String) (held : Held (among place polyglot))
    (listed : reportNames (among place (written [plainResult])) "d" = .ok ["claim.xml"])
    (listed' : reportNames (among place (written [ownResult "\":\""])) "r" = .ok ["report.xml"])
    (own : readReport (among place (written [plainResult])) (Path.join "d" "claim.xml") =
      .ok (ownResult content).2)
    (plain : readReport (among place (written [ownResult "\":\""])) (Path.join "r" "report.xml") =
      .ok plainResult.2) :
    Steps (among place polyglot) path "r" "d" "t"
      (among place (written [ownResult content, plainResult]))
      (among place (written [ownResult "\":\"", plainResult]))
      (among place (written [ownResult "\":\"", plainResult])) := by
  have stems : stem "claim.xml" = "claim" ∧ stem "report.xml" = "report" := by decide +kernel
  have before : Dict.insert [plainResult] "claim" (ownResult content).2 =
      [ownResult content, plainResult] := by rfl
  have behind : Dict.insert [ownResult "\":\""] "report" plainResult.2 =
      [ownResult "\":\"", plainResult] := by rfl
  obtain ⟨textOwn, textOwn', textPlain, textPlain'⟩ := held.texts
  constructor
  case forth =>
    exact ⟨_, _, _, adds_first leads held.plain stems.2 (readReport_eq_ok textPlain converts_plain),
      adds_second leads (by decide) listed stems.1 (by decide) own before⟩
  case back =>
    exact ⟨_, _, _, adds_first leads held.own stems.1 (readReport_eq_ok textOwn converts_polyglot),
      adds_second leads (by decide) listed' stems.2 (by decide) plain behind⟩
  case once =>
    exact ⟨_, adds_both leads held.all (readReport_eq_ok textOwn' converts_polyglot)
      (readReport_eq_ok textPlain' converts_plain)⟩

omit leads

theorem addReports_in_steps_beside : ∃ forth back once,
    Steps (among ["claim.json"] polyglot) "claim.json" "r" "d" "t" forth back once ∧
      forth = once ∧ back = once := by
  have wf := among_wellFormed claim_leads polyglot
  have steps := steps_among claim_leads "\":\"" held_beside (by decide +kernel)
    (by decide +kernel) (readReport_eq_ok (by decide +kernel) converts_polyglot)
    (readReport_eq_ok (by decide +kernel) converts_plain)
  have outside : Outside (among ["claim.json"] polyglot) "claim.json" "r" := by
    intro name report
    rw [List.mem_singleton.mp ((mem_reportNames wf held_beside.plain).mpr report)]
    decide +kernel
  have outside' : Outside (among ["claim.json"] polyglot) "claim.json" "d" := by
    intro name report
    rw [List.mem_singleton.mp ((mem_reportNames wf held_beside.own).mpr report)]
    decide +kernel
  exact ⟨_, _, _, steps, addReports_in_steps wf (readDocument_polyglot claim_leads)
    polyglotClaim_whole (held_beside.apart wf) (held_beside.both wf) outside outside' steps⟩

/-- A claim that is one of the reports itself may be left with other bytes: where it is read as a
report behind the first step, it has been written anew. -/
theorem steps_may_differ :
    let files := among ["d", "claim.xml"] polyglot
    let claim := "d/claim.xml"
    files.WellFormed ∧ (∃ document, readDocument files claim = .ok document ∧ document.Whole) ∧
      Apart files "r" "d" ∧ HoldsBoth files "t" "r" "d" ∧
      ∃ forth back once, Steps files claim "r" "d" "t" forth back once ∧
        forth.readText claim ≠ back.readText claim ∧ back.readText claim = once.readText claim := by
  have wf := among_wellFormed own_leads polyglot
  have own : Path.join "d" "claim.xml" = "d/claim.xml" := by decide +kernel
  have steps := steps_among own_leads "\": \"" held_own (by decide +kernel)
    (by decide +kernel)
    (readReport_eq_ok (own ▸ Files.readText_write (write_among own_leads "" _)) converts_written)
    (readReport_eq_ok (by decide +kernel) converts_plain)
  refine ⟨wf, ⟨_, readDocument_polyglot own_leads, polyglotClaim_whole⟩, held_own.apart wf,
    held_own.both wf, _, _, _, steps, ?_, rfl⟩
  decide +kernel

end Polyglot

end Claim
end Resilience
