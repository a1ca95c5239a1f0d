import Resilience.Catalog
import Resilience.Files
import Resilience.Json.Typed
import Resilience.Snapshot.Basic
/-! # Snapshots from claims

A claim is a JSON document. The snapshot lies in some of its parts, every one of which may be
missing; the other parts are passed over.
-/
namespace Resilience

namespace Json.Tree

def pluginEntry? : Reading PluginEntry := fun depth t => do
  match ← t.fields? ["name", "plugins"] depth with
  | (depth, [name, plugins]) =>
    let name ← text? depth (← name)
    let plugins ← defaulted none (nullable? (list? fun depth t => t.value? depth)) depth plugins
    pure ⟨name, plugins⟩
  | _ => none

/-- The outcome of a test; without a status it is empty. -/
def testCase? : Reading TestCase := fun depth t => do
  match ← t.fields? ["-name", "-status"] depth with
  | (depth, [name, status]) =>
    let name ← text? depth (← name)
    let status ← defaulted "" text? depth status
    pure ⟨name, status⟩
  | _ => none

/-- Outcomes: a list of them, or a single one. Every part of them must be whole. -/
def testCases? : Reading (List TestCase) := fun depth t => do
  -- surplus members count too
  let _ ← t.value? depth
  match list? testCase? depth t with
  | some cases => some cases
  | none => (testCase? depth t).map ([·])

def rawResults? : Reading (List TestCase) :=
  wrapper? "cnf-certification-test" [] (wrapper? "testsuites" []
    (wrapper? "testsuite" [] (wrapper? "testcase" [] testCases?)))

def nodes? : Reading (Dict String (List PluginEntry) × Dict String Json) := fun depth t => do
  match ← t.fields? ["cniPlugins", "nodesHwInfo"] depth with
  | (depth, [plugins, hardware]) =>
    let plugins ← defaulted [] (dict? (list? pluginEntry?)) depth plugins
    let hardware ← defaulted [] (dict? fun depth t => t.value? depth) depth hardware
    pure (plugins, hardware)
  | _ => none

def claim? : Reading Snapshot := fun depth t => do
  match ← t.fields? ["nodes", "rawResults"] depth with
  | (depth, [nodes, results]) =>
    let (plugins, hardware) ← defaulted ([], []) nodes? depth nodes
    let cases ← defaulted [] rawResults? depth results
    pure ⟨plugins, hardware, cases⟩
  | _ => none

def claimDocument? : Reading Snapshot := fun depth t => do
  match ← t.fields? ["claim"] depth with
  | (depth, [some claim]) => claim? depth claim
  | _ => none

end Json.Tree

inductive SnapshotError where
  | unreadable (path : String) (reason : FileError)
  | malformed (path : String)
deriving DecidableEq, Repr

namespace SnapshotError

def code : SnapshotError → ErrorCode
  | .unreadable _ _ => .snapshotReadError
  | .malformed _ => .snapshotParseError

def message : SnapshotError → String
  | .unreadable path reason => s!"failed to read snapshot {path}: {reason.message}"
  | .malformed path => s!"snapshot {path} is not a valid claim document: malformed claim"

end SnapshotError

namespace Snapshot

/-- What stands for a byte that is no text: an escaped quote and a lone surrogate, which like the
byte may stand in a string that nobody keeps. Behind a backslash, where the byte ends an escape that
there is none of, the quote closes the string in front of another backslash. -/
def unreadableByte : List Char := ['\\', '"', '\\', 'u', 'd', 'c', '0', '0']

def ofChars? (cs : List Char) : Option Snapshot :=
  (Json.Tree.ofChars? cs).bind (Json.Tree.claimDocument? Json.maxDepth)

def parse? (s : String) : Option Snapshot := ofChars? s.toList

def load (files : Files) (path : String) : Except SnapshotError Snapshot :=
  match files.read path with
  | .error e => .error (.unreadable path e)
  | .ok content =>
    match ofChars? (content.chars unreadableByte) with
    | some s => .ok s
    | none => .error (.malformed path)

end Snapshot
end Resilience
