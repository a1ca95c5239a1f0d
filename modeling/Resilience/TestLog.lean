import Resilience.Files
import Resilience.Json.Printer
import Resilience.Json.Typed
import Resilience.Text.Split
/-! # The log of a test

What a test does is written down line by line. Each entry is a record on a line of its own, so
that a message may hold line ends, and the name of the file comes from the name of the test, so
that it lies in the directory of logs whatever the test is called.
-/
namespace Resilience

inductive TestPhase where
  | setup
  | execute
  | verify
  | teardown
deriving DecidableEq, Repr, Inhabited

namespace TestPhase

def name : TestPhase → String
  | .setup => "setup"
  | .execute => "execute"
  | .verify => "verify"
  | .teardown => "teardown"

def ofName? : String → Option TestPhase
  | "setup" => some .setup
  | "execute" => some .execute
  | "verify" => some .verify
  | "teardown" => some .teardown
  | _ => none

theorem ofName?_name (p : TestPhase) : ofName? p.name = some p := by cases p <;> rfl

end TestPhase

structure TestLogEntry where
  timestamp : String
  testName : String
  phase : TestPhase
  message : String
  data : Option Json := none
  /-- Milliseconds since the start of the test. -/
  duration : Option Nat := none

namespace TestLogEntry

def toJson (e : TestLogEntry) : Json :=
  .object ([("timestamp", .string e.timestamp), ("test_name", .string e.testName),
    ("phase", .string e.phase.name), ("message", .string e.message)] ++
    Json.optional "data" id e.data ++ Json.optional "duration_ms" Json.nat e.duration)

def line (e : TestLogEntry) : String := e.toJson.compact ++ "\n"

end TestLogEntry

namespace Json.Tree

def testPhase? : Reading TestPhase := fun depth t => (text? depth t).bind TestPhase.ofName?

def count? : Reading Nat := fun depth t => do
  match ← t.value? depth with
  | .number (.int n) => if 0 ≤ n then some n.toNat else none
  | _ => none

def testLogEntry? : Reading TestLogEntry := fun depth t => do
  let names := ["timestamp", "test_name", "phase", "message", "data", "duration_ms"]
  match ← t.fields? names depth with
  | (depth, [timestamp, testName, phase, message, data, duration]) =>
    let timestamp ← text? depth (← timestamp)
    let testName ← text? depth (← testName)
    let phase ← testPhase? depth (← phase)
    let message ← text? depth (← message)
    let data ← defaulted none (nullable? fun depth t => t.value? depth) depth data
    let duration ← defaulted none (nullable? count?) depth duration
    pure ⟨timestamp, testName, phase, message, data, duration⟩
  | _ => none

end Json.Tree

def TestLogEntry.ofLine? (s : String) : Option TestLogEntry :=
  (Json.Tree.ofChars? s.toList).bind (Json.Tree.testLogEntry? Json.maxDepth)

structure TestLog where
  testName : String
  entries : List TestLogEntry := []

namespace TestLog

/-- When something is written down: the time of day, and the milliseconds since the start. -/
structure Moment where
  timestamp : String
  elapsed : Nat

/-- The milliseconds as they are kept, in a count of 64 bits. -/
def Moment.duration (m : Moment) : Nat := m.elapsed % twoTo 64

def add (l : TestLog) (now : Moment) (phase : TestPhase) (message : String)
    (data : Option Json) : TestLog :=
  { l with entries := l.entries ++
      [⟨now.timestamp, l.testName, phase, message, data, some now.duration⟩] }

def start (testName : String) (now : Moment) : TestLog :=
  ({ testName := testName } : TestLog).add now .setup "TEST START" none

def log (l : TestLog) (now : Moment) (phase : TestPhase) (message : String) : TestLog :=
  l.add now phase message none

def pass (l : TestLog) (now : Moment) : TestLog := l.log now .verify "TEST PASS"

def fail (l : TestLog) (now : Moment) (reason : String) : TestLog :=
  l.add now .verify "TEST FAIL" (some (.object [("reason", .string reason)]))

def logAll (l : TestLog) (messages : List (Moment × TestPhase × String)) : TestLog :=
  messages.foldl (fun l m => l.log m.1 m.2.1 m.2.2) l

def finish (l : TestLog) (now : Moment) : Option String → TestLog
  | none => l.pass now
  | some reason => l.fail now reason

def text (l : TestLog) : String := String.join (l.entries.map TestLogEntry.line)

/-- The name of a test without what separates directories or modules. -/
def safeName (testName : String) : String :=
  (Text.replace "::" "_" testName).map fun c => if c = '/' ∨ c = '\\' then '_' else c

def fileName (testName : String) : String := safeName testName ++ ".jsonl"

/-- The directory of all logs, inside the directory of what is built. -/
def directory (target : String) : String := Path.join target "test-logs"

def path (target testName : String) : String := Path.join (directory target) (fileName testName)

/-- A file can have this name: it is not too long. -/
def isFileName (name : String) : Bool := name.utf8ByteSize ≤ 255 && !name.toList.contains '\x00'

end TestLog
end Resilience
