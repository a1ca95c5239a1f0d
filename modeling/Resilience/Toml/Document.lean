import Resilience.Toml.Statement
/-! # TOML documents

The statements of a document build one table. A table may be opened by one header only; tables
that a header or a dotted key passes through come into being by that, and inline tables are
closed.
-/
namespace Resilience.Toml

inductive Opening where
  /-- By its own header. -/
  | header
  /-- Passed through by the header of a table below it. -/
  | passed
  /-- Passed through by a dotted key. -/
  | dotted
deriving DecidableEq, Repr

inductive Draft where
  | value (v : Toml)
  | table (opening : Opening) (entries : List (String × Draft))
  /-- The tables of an array of tables, the last one first. -/
  | tables (last : List (String × Draft)) (before : List (List (String × Draft)))
deriving Inhabited

abbrev Drafts := List (String × Draft)

/-- Adds what a function makes of the table at the end of a path. The path may lead through the
last table of an array of tables; it makes the tables that it does not find. -/
def alter? (through : Opening) (f : Opening → Drafts → Option Drafts) :
    List String → Opening → Drafts → Option Drafts
  | [], opening, ds => f opening ds
  | key :: path, _, ds =>
    match Dict.find? ds key with
    | none => (alter? through f path through []).map fun es => Dict.insert ds key (.table through es)
    | some (.table opening es) =>
      if through = .dotted ∧ opening = .header then none
      else (alter? through f path opening es).map fun es => Dict.insert ds key (.table opening es)
    | some (.tables last before) =>
      (alter? through f path .header last).map fun es => Dict.insert ds key (.tables es before)
    | some (.value _) => none

def openTable? (key : String) (_ : Opening) (ds : Drafts) : Option Drafts :=
  match Dict.find? ds key with
  | none => some (Dict.insert ds key (.table .header []))
  | some (.table .passed es) => some (Dict.insert ds key (.table .header es))
  | some _ => none

def openItem? (key : String) (_ : Opening) (ds : Drafts) : Option Drafts :=
  match Dict.find? ds key with
  | none => some (Dict.insert ds key (.tables [] []))
  | some (.tables last before) => some (Dict.insert ds key (.tables [] (last :: before)))
  | some _ => none

/-- Assigns a value to a new key. Dotted keys may only end in tables that dotted keys made, plain
ones only in others. -/
def assign? (dotted : Bool) (key : String) (v : Toml) (opening : Opening) (ds : Drafts) :
    Option Drafts :=
  if dotted ≠ (opening == .dotted) then none
  else match Dict.find? ds key with
    | none => some (Dict.insert ds key (.value v))
    | some _ => none

def splitLast? (path : List String) : Option (List String × String) :=
  match path.reverse with
  | [] => none
  | key :: front => some (front.reverse, key)

def assignPath? (path : List String) (v : Toml) (opening : Opening) (ds : Drafts) :
    Option Drafts := do
  let (front, key) ← splitLast? path
  alter? .dotted (assign? (!front.isEmpty) key v) front opening ds

mutual

def Draft.finish : Draft → Toml
  | .value v => v
  | .table _ es => .table (finishEntries es)
  | .tables last before => .array (finishTables before [.table (finishEntries last)])

def finishEntries : List (String × Draft) → List (String × Toml)
  | [] => []
  | (key, d) :: ds => (key, d.finish) :: finishEntries ds

def finishTables : List (List (String × Draft)) → List Toml → List Toml
  | [], acc => acc
  | es :: before, acc => finishTables before (.table (finishEntries es) :: acc)

end

mutual

def Written.value? : Written → Option Toml
  | .value v => some v
  | .array ws => (valuesOf? ws).map .array
  | .inlineTable es => do
    let ds ← inlineEntries? es []
    pure (.table (finishEntries ds))

def valuesOf? : List Written → Option (List Toml)
  | [] => some []
  | w :: ws => do
    let v ← w.value?
    let vs ← valuesOf? ws
    pure (v :: vs)

def inlineEntries? : List (List String × Written) → Drafts → Option Drafts
  | [], ds => some ds
  | (path, w) :: es, ds => do
    let v ← w.value?
    let ds ← assignPath? path v .header ds
    inlineEntries? es ds

end

/-- A document so far: its entries and the path of the table that assignments go to. -/
structure Building where
  entries : Drafts
  path : List String

def Building.step? (b : Building) : Statement → Option Building
  | .header path => do
    let (front, key) ← splitLast? path
    let es ← alter? .passed (openTable? key) front .header b.entries
    pure ⟨es, path⟩
  | .arrayHeader path => do
    let (front, key) ← splitLast? path
    let es ← alter? .passed (openItem? key) front .header b.entries
    pure ⟨es, path⟩
  | .assign path w => do
    let v ← w.value?
    let es ← alter? .passed (assignPath? path v) b.path .header b.entries
    pure ⟨es, b.path⟩

def parse? (s : String) : Option (Dict String Toml) := do
  let ss ← statements? s
  let b ← ss.foldlM Building.step? ⟨[], []⟩
  pure (finishEntries b.entries)

end Resilience.Toml
