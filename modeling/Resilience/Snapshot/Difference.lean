import Resilience.Snapshot.Basic
/-! # Differences of snapshots

A baseline is compared with a candidate. Entries are matched by name; where a name repeats, the
entry with so many namesakes before it is matched with the candidate's entry that has as many.
-/
namespace Resilience

/-- The groups with one more entry, behind the others of its name. -/
def joinGroup {α : Type} (name : α → String) (byName : Dict String (List α)) (a : α) :
    Dict String (List α) :=
  Dict.insert byName (name a) ((Dict.find? byName (name a)).getD [] ++ [a])

def grouped {α : Type} (name : α → String) (items : List α) : Dict String (List α) :=
  items.foldl (joinGroup name) []

/-- The entries of a baseline, each with its match among the candidate's entries of its name.
`seen` counts the entries of each name that were matched before. -/
def pairFrom {α : Type} (name : α → String) (byName : Dict String (List α))
    (seen : Dict String Nat) : List α → List (α × Option α)
  | [] => []
  | a :: rest =>
    let index := (Dict.find? seen (name a)).getD 0
    let other := (Dict.find? byName (name a)).bind fun items => items[index]?
    (a, other) :: pairFrom name byName (Dict.insert seen (name a) (index + 1)) rest

def pairByName {α : Type} (name : α → String) (baseline candidate : List α) :
    List (α × Option α) :=
  pairFrom name (grouped name candidate) [] baseline

structure ChangedPlugin where
  name : String
  before : Nat
  after : Nat
deriving DecidableEq, Repr

structure PluginDifference where
  changed : List ChangedPlugin
  missing : List String
deriving DecidableEq, Repr

structure ChangedTest where
  name : String
  before : String
  after : String
deriving DecidableEq, Repr

structure TestDifference where
  changed : List ChangedTest
  missing : List String
deriving DecidableEq, Repr

structure NodeDifference where
  onlyBaseline : List String
  onlyCandidate : List String
deriving DecidableEq, Repr

/-- All differences of two snapshots; only nodes that differ are listed with plugins. -/
structure SnapshotDifference where
  plugins : List (String × PluginDifference)
  nodes : NodeDifference
  tests : TestDifference
deriving DecidableEq, Repr

/-- The change of one configuration. A candidate without a list does not count as changed. -/
def PluginEntry.change? (e other : PluginEntry) : Option ChangedPlugin :=
  match other.plugins with
  | some list => if list.length ≠ e.count then some ⟨e.name, e.count, list.length⟩ else none
  | none => none

def TestCase.change? (c other : TestCase) : Option ChangedTest :=
  if other.status ≠ c.status then some ⟨c.name, c.status, other.status⟩ else none

def unmatched {α : Type} (name : α → String) (pairs : List (α × Option α)) : List String :=
  pairs.filterMap fun p => if p.2.isNone then some (name p.1) else none

def changes {α β : Type} (change? : α → α → Option β) (pairs : List (α × Option α)) : List β :=
  pairs.filterMap fun p => p.2.bind (change? p.1)

def PluginDifference.of (baseline candidate : List PluginEntry) : PluginDifference :=
  let pairs := pairByName PluginEntry.name baseline candidate
  ⟨changes PluginEntry.change? pairs, unmatched PluginEntry.name pairs⟩

def TestDifference.of (baseline candidate : List TestCase) : TestDifference :=
  let pairs := pairByName TestCase.name baseline candidate
  ⟨changes TestCase.change? pairs, unmatched TestCase.name pairs⟩

/-- The names in the second list that the first one lacks. -/
def missingNames (present names : List String) : List String :=
  names.filter fun n => n ∉ present

def NodeDifference.of (baseline candidate : List String) : NodeDifference :=
  ⟨missingNames candidate baseline, missingNames baseline candidate⟩

namespace PluginDifference

def isEmpty (d : PluginDifference) : Bool := d.changed.isEmpty && d.missing.isEmpty

def changedJson (d : PluginDifference) : Json :=
  .array (d.changed.map fun c => .object [("name", .string c.name),
    ("baseline_count", .nat c.before), ("candidate_count", .nat c.after)])

end PluginDifference

namespace TestDifference

def isEmpty (d : TestDifference) : Bool := d.changed.isEmpty && d.missing.isEmpty

def changedJson (d : TestDifference) : Json :=
  .array (d.changed.map fun c => .object [("name", .string c.name),
    ("baseline_status", .string c.before), ("candidate_status", .string c.after)])

end TestDifference

def NodeDifference.isEmpty (d : NodeDifference) : Bool :=
  d.onlyBaseline.isEmpty && d.onlyCandidate.isEmpty

/-- The differences of two snapshots. Plugins are compared on nodes that both have. -/
def Snapshot.difference (baseline candidate : Snapshot) : SnapshotDifference where
  plugins := baseline.plugins.filterMap fun p =>
    match Dict.find? candidate.plugins p.1 with
    | none => none
    | some other =>
      let d := PluginDifference.of p.2 other
      if d.isEmpty then none else some (p.1, d)
  nodes := .of baseline.nodeNames candidate.nodeNames
  tests := .of baseline.testCases candidate.testCases

namespace SnapshotDifference

def isEmpty (d : SnapshotDifference) : Bool :=
  d.plugins.isEmpty && d.nodes.isEmpty && d.tests.isEmpty

def lines (d : SnapshotDifference) : List String :=
  d.plugins.flatMap (fun (node, p) =>
    p.missing.map (fun name => s!"node {node}: plugin entry {name} missing in candidate") ++
    p.changed.map fun c =>
      s!"node {node}: plugin entry {c.name} changed ({c.before} -> {c.after} plugins)") ++
  d.nodes.onlyBaseline.map (fun node => s!"node {node} only in baseline") ++
  d.nodes.onlyCandidate.map (fun node => s!"node {node} only in candidate") ++
  d.tests.missing.map (fun name => s!"test {name} missing in candidate") ++
  d.tests.changed.map fun c => s!"test {c.name}: {c.before} -> {c.after}"

def text (d : SnapshotDifference) : String :=
  if d.isEmpty then "No differences.\n" else String.join (d.lines.map (· ++ "\n"))

def toJson (d : SnapshotDifference) : Json :=
  .object [
    ("plugins", .array (d.plugins.map fun (node, p) =>
      .object [("node", .string node), ("changed", p.changedJson),
        ("missing_in_candidate", .strings p.missing)])),
    ("nodes", .object [("only_in_baseline", .strings d.nodes.onlyBaseline),
      ("only_in_candidate", .strings d.nodes.onlyCandidate)]),
    ("test_cases", .object [("changed", d.tests.changedJson),
      ("missing_in_candidate", .strings d.tests.missing)])]

end SnapshotDifference
end Resilience
