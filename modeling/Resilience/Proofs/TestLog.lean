import Resilience.Proofs.Files
import Resilience.Proofs.Json.Compact
import Resilience.Proofs.Json.Typed
import Resilience.TestLog
/-! # Logs of tests read back

The file of a log has a line for every entry, in order, and each line is read as its entry, whatever
the messages hold. It lies in the directory of logs, whatever the test is called.
-/
namespace Resilience

namespace Text

theorem splitChars_flatMap {sep : Char} {ls : List (List Char)} (h : ∀ l ∈ ls, sep ∉ l) :
    splitChars sep (ls.flatMap (· ++ [sep])) = ls ++ [[]] := by
  induction ls with
  | nil => rfl
  | cons l ls ih =>
    rw [List.forall_mem_cons] at h
    rw [List.flatMap_cons, List.append_assoc, List.singleton_append, splitChars_append, ih h.2,
      splitChars_of_notMem h.1, List.singleton_append, List.cons_append]

theorem dropReturn_of_notMem {l : List Char} (h : '\r' ∉ l) : dropReturn l = l := by
  rw [dropReturn, if_neg]
  intro last
  exact h (List.mem_of_getLast? last)

theorem lineChars_flatMap {ls : List (List Char)} (h : ∀ l ∈ ls, '\n' ∉ l ∧ '\r' ∉ l) :
    lineChars (ls.flatMap (· ++ ['\n'])) = ls := by
  have whole : ls.map dropReturn = ls.map id :=
    List.map_congr_left fun l hl => dropReturn_of_notMem (h l hl).2
  rw [lineChars, splitChars_flatMap fun l hl => (h l hl).1, List.reverse_append]
  simp only [List.reverse_singleton, List.singleton_append, if_true]
  rw [← List.map_reverse, List.reverse_reverse, whole, List.map_id]

/-- Texts without line ends are the lines of what they are written to line by line. -/
theorem lines_join {ls : List String} (h : ∀ l ∈ ls, '\n' ∉ l.toList ∧ '\r' ∉ l.toList) :
    lines (String.join (ls.map (· ++ "\n"))) = ls := by
  have chars : (String.join (ls.map (· ++ "\n"))).toList =
      (ls.map String.toList).flatMap (· ++ ['\n']) := by
    simp only [String.toList_join, List.flatMap_map, String.toList_append]
    rfl
  have each : ∀ l ∈ ls.map String.toList, '\n' ∉ l ∧ '\r' ∉ l := List.forall_mem_map.mpr h
  rw [lines, chars, lineChars_flatMap each, List.map_map]
  simp

end Text

namespace TestLogEntry

open Json (Tree)

structure Keeps (j : Json) : Prop where
  proper : j.Proper
  whole : j.Whole
  low : j.height < Json.maxDepth
  filled : j ≠ .null

structure Kept (e : TestLogEntry) : Prop where
  data : ∀ j, e.data = some j → Keeps j
  duration : ∀ n, e.duration = some n → n < 2 ^ 64

variable {e : TestLogEntry}

theorem number_proper {n : Nat} (h : n < 2 ^ 64) : (Json.Number.int n).Proper := by
  constructor
  · omega
  · omega

theorem ranged_optional {α : Type} (key : String) {f : α → Json} {a : Option α}
    (h : ∀ x, a = some x → (f x).Ranged) : ∀ m ∈ Json.optional key f a, m.2.Ranged := by
  intro m hm
  cases a with
  | none => simp [Json.optional] at hm
  | some x =>
    rw [Json.optional, List.mem_singleton] at hm
    rw [hm]
    exact h x rfl

theorem Kept.ranged (h : e.Kept) : e.toJson.Ranged := by
  have data : ∀ m ∈ Json.optional "data" id e.data, m.2.Ranged :=
    ranged_optional "data" fun j given => .of_proper (h.data j given).proper
  have duration : ∀ m ∈ Json.optional "duration_ms" Json.nat e.duration, m.2.Ranged :=
    ranged_optional "duration_ms" fun n given => .number (number_proper (h.duration n given))
  rw [toJson, Json.Ranged.object_iff, List.forall_mem_append, List.forall_mem_append]
  refine ⟨⟨?_, data⟩, duration⟩
  simp [Json.Ranged.string]

theorem nullable?_tree {α : Type} {read : Json.Reading α} {d : Nat} {j : Json}
    (filled : j ≠ .null) : Tree.nullable? read d j.tree = (read d j.tree).map some := by
  cases j with
  | null => exact absurd rfl filled
  | _ => rfl

theorem count?_tree {d n : Nat} (h : n < 2 ^ 64) : Tree.count? d (Json.nat n).tree = some n := by
  have value : (Json.nat n).tree.value? d = some (.number (.int n)) := by
    rw [Json.nat, Json.tree, Tree.value?, Json.Numeral.number?_ofNumber (number_proper h) trivial]
    rfl
  simp [Tree.count?, value]

/-- The fields of the record of an entry, in the order in which they are read. -/
theorem fields?_toJson (e : TestLogEntry) :
    e.toJson.tree.fields? ["timestamp", "test_name", "phase", "message", "data", "duration_ms"]
        Json.maxDepth =
      some (126, [some (.string (some e.timestamp)), some (.string (some e.testName)),
        some (.string (some e.phase.name)), some (.string (some e.message)),
        e.data.map Json.tree, e.duration.map fun n => (Json.nat n).tree]) := by
  -- the members stand in the order of the entry and not of their keys, so this record is not one
  -- of those that were read before; what is absent changes which members there are
  obtain ⟨timestamp, testName, phase, message, data, duration⟩ := e
  rw [toJson, Json.tree, Json.maxDepth, Tree.fields?, Tree.wholeMembers?_memberTrees]
  cases data <;> cases duration <;> simp [Json.optional, Json.tree, Tree.single?]

/-- The line of an entry that is kept is read as the entry. -/
theorem Kept.ofLine? (h : e.Kept) : ofLine? e.toJson.compact = some e := by
  have data : Tree.defaulted none (Tree.nullable? fun d t => t.value? d) 126
      (e.data.map Json.tree) = some e.data := by
    cases given : e.data with
    | none => rfl
    | some j =>
      have keeps := h.data j given
      have low : j.height ≤ 126 := Nat.le_of_lt_succ keeps.low
      rw [Option.map_some, Tree.defaulted, nullable?_tree keeps.filled,
        Json.value?_whole keeps.proper keeps.whole low, Option.map_some]
  have duration : Tree.defaulted none (Tree.nullable? Tree.count?) 126
      (e.duration.map fun n => (Json.nat n).tree) = some e.duration := by
    cases given : e.duration with
    | none => rfl
    | some n =>
      have filled : Json.nat n ≠ .null := by
        intro null
        cases null
      rw [Option.map_some, Tree.defaulted, nullable?_tree filled,
        count?_tree (h.duration n given), Option.map_some]
  have phase : Tree.testPhase? 126 (.string (some e.phase.name)) = some e.phase := by
    simp [Tree.testPhase?, Tree.text?, TestPhase.ofName?_name]
  rw [TestLogEntry.ofLine?, Json.ofChars?_compact h.ranged, Option.bind_some,
    Tree.testLogEntry?, fields?_toJson]
  simp only [Tree.text?, Option.pure_def, Option.bind_eq_bind, Option.bind_some, phase, data,
    duration]

theorem Kept.notMem_line (h : e.Kept) :
    '\n' ∉ e.toJson.compact.toList ∧ '\r' ∉ e.toJson.compact.toList := by
  rw [Json.compact, String.toList_ofList]
  have printed := Json.isPrinted_compact h.ranged
  exact ⟨printed.notMem (by decide), printed.notMem (by decide)⟩

structure Listed (text : String) (entries : List TestLogEntry) : Prop where
  ended : text = String.join ((Text.lines text).map (· ++ "\n"))
  plain : ∀ line ∈ Text.lines text, '\n' ∉ line.toList
  read : (Text.lines text).map ofLine? = entries.map some

theorem listed_of_kept {entries : List TestLogEntry} (h : ∀ e ∈ entries, e.Kept) :
    Listed (String.join (entries.map line)) entries := by
  have plain : ∀ l ∈ entries.map fun e => e.toJson.compact,
      '\n' ∉ l.toList ∧ '\r' ∉ l.toList :=
    List.forall_mem_map.mpr fun e he => (h e he).notMem_line
  have lines : Text.lines (String.join (entries.map line)) =
      entries.map fun e => e.toJson.compact := by
    rw [← Text.lines_join plain, List.map_map]
    rfl
  constructor
  · rw [lines, List.map_map]
    rfl
  · rw [lines]
    exact fun l hl => (plain l hl).1
  · rw [lines, List.map_map]
    refine List.map_congr_left fun e he => ?_
    rw [Function.comp_apply, (h e he).ofLine?]

end TestLogEntry

namespace TestLog

open TestLogEntry

variable {testName : String} {l : TestLog}

theorem Moment.duration_lt (m : Moment) : m.duration < 2 ^ 64 := by
  have some_room : 0 < twoTo 64 := by decide
  exact Nat.mod_lt m.elapsed some_room

theorem keeps_reason (reason : String) : Keeps (.object [("reason", .string reason)]) where
  proper := ⟨List.pairwise_singleton _ _, trivial, trivial⟩
  whole := by simp [Json.Whole, Json.numbers, Json.membersNumbers]
  low := by simp [Json.height, Json.membersHeight, Json.maxDepth]
  filled := by simp

def Faithful (l : TestLog) : Prop := ∀ e ∈ l.entries, e.Kept

theorem Faithful.add (h : l.Faithful) (now : Moment) (phase : TestPhase) (message : String)
    {data : Option Json} (keeps : ∀ j, data = some j → Keeps j) :
    (l.add now phase message data).Faithful := by
  intro e he
  rcases List.mem_append.mp he with he | he
  · exact h e he
  · rw [List.mem_singleton.mp he]
    refine ⟨keeps, ?_⟩
    rintro n ⟨⟩
    exact now.duration_lt

theorem Faithful.start (testName : String) (now : Moment) : (start testName now).Faithful := by
  have empty : Faithful ⟨testName, []⟩ := by simp [Faithful]
  exact empty.add now .setup "TEST START" (by simp)

theorem Faithful.logAll (h : l.Faithful) (messages : List (Moment × TestPhase × String)) :
    (l.logAll messages).Faithful := by
  induction messages generalizing l with
  | nil => exact h
  | cons m messages ih => exact ih (h.add m.1 m.2.1 m.2.2 (by simp))

theorem Faithful.finish (h : l.Faithful) (now : Moment) (failure : Option String) :
    (l.finish now failure).Faithful := by
  cases failure with
  | none => exact h.add now .verify "TEST PASS" (by simp)
  | some reason =>
    refine h.add now .verify "TEST FAIL" ?_
    rintro j ⟨⟩
    exact keeps_reason reason

def entryAt (testName : String) (now : Moment) (phase : TestPhase) (message : String)
    (data : Option Json) : TestLogEntry :=
  ⟨now.timestamp, testName, phase, message, data, some now.duration⟩

def messageEntry (testName : String) (m : Moment × TestPhase × String) : TestLogEntry :=
  entryAt testName m.1 m.2.1 m.2.2 none

def lastEntry (testName : String) (now : Moment) : Option String → TestLogEntry
  | none => entryAt testName now .verify "TEST PASS" none
  | some reason =>
    entryAt testName now .verify "TEST FAIL" (some (.object [("reason", .string reason)]))

theorem logAll_eq (l : TestLog) (messages : List (Moment × TestPhase × String)) :
    l.logAll messages = { l with
      entries := l.entries ++ messages.map (messageEntry l.testName) } := by
  induction messages generalizing l with
  | nil => simp [logAll]
  | cons m messages ih =>
    have step : l.logAll (m :: messages) = (l.log m.1 m.2.1 m.2.2).logAll messages := rfl
    rw [step, ih]
    simp [log, add, messageEntry, entryAt]

theorem finish_eq (l : TestLog) (now : Moment) (failure : Option String) :
    l.finish now failure =
      { l with entries := l.entries ++ [lastEntry l.testName now failure] } := by
  cases failure <;> rfl

def finishedEntries (testName : String) (begun ended : Moment)
    (messages : List (Moment × TestPhase × String)) (failure : Option String) :
    List TestLogEntry :=
  entryAt testName begun .setup "TEST START" none ::
    (messages.map (messageEntry testName) ++ [lastEntry testName ended failure])

theorem entries_finish_logAll_start (testName : String) (begun ended : Moment)
    (messages : List (Moment × TestPhase × String)) (failure : Option String) :
    (((start testName begun).logAll messages).finish ended failure).entries =
      finishedEntries testName begun ended messages failure := by
  rw [finish_eq, logAll_eq]
  rfl

/-- The name of the file of a log names a file, whatever the test is called. -/
theorem isName_fileName (testName : String) : Files.IsName (fileName testName) := by
  have chars : (fileName testName).toList = (safeName testName).toList ++ ".jsonl".toList :=
    String.toList_append
  have letter : 'j' ∈ (fileName testName).toList := by
    rw [chars]
    exact List.mem_append_right _ (by decide)
  have distinct : ∀ s : String, 'j' ∉ s.toList → fileName testName ≠ s := by
    rintro s free rfl
    exact free letter
  have plain : '/' ∉ (fileName testName).toList := by
    rw [chars, List.mem_append, not_or]
    constructor
    · rw [safeName, String.toList_map, List.mem_map]
      rintro ⟨c, -, same⟩
      split_ifs at same with separator
      · exact absurd same (by decide)
      · exact separator (.inl same)
    · decide
  exact ⟨plain, distinct "" (by decide), distinct "." (by decide), distinct ".." (by decide)⟩

/-- The file of a log lies in the directory of logs, and that in the directory of what is built. -/
theorem place?_path (target testName : String) : Files.place? (path target testName) =
    some ((Files.place? target).getD [] ++ ["test-logs", fileName testName]) := by
  have logs : Files.IsName "test-logs" := ⟨by decide, by decide, by decide⟩
  have inside : Files.place? (directory target) =
      some ((Files.place? target).getD [] ++ ["test-logs"]) := by
    by_cases empty : target = ""
    · subst empty
      rw [directory, Path.join, if_pos (.inr rfl), Files.place?, if_neg logs.filled,
        logs.not_startsWith, Text.split_of_notMem logs.plain, if_neg Bool.false_ne_true,
        logs.follow]
      rfl
    · have found : ∃ place, Files.place? target = some place := by simp [Files.place?, empty]
      obtain ⟨place, found⟩ := found
      rw [found]
      exact Files.place?_join logs found
  rw [path, Files.place?_join (isName_fileName testName) inside, List.append_assoc]
  rfl

/-- The log of a test that ended has a line for its beginning, one for every message, in order, and
one for its end, each read as its entry, and its file lies in the directory of logs. -/
theorem finished_read_back (target testName : String) (begun ended : Moment)
    (messages : List (Moment × TestPhase × String)) (failure : Option String) :
    Listed (((start testName begun).logAll messages).finish ended failure).text
        (finishedEntries testName begun ended messages failure) ∧
      Files.place? (path target testName) =
        some ((Files.place? target).getD [] ++ ["test-logs", fileName testName]) := by
  constructor
  · have faithful := ((Faithful.start testName begun).logAll messages).finish ended failure
    rw [← entries_finish_logAll_start]
    exact listed_of_kept faithful
  · exact place?_path target testName

end TestLog
end Resilience
