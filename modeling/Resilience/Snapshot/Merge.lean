import Resilience.Catalog
import Resilience.Files
import Resilience.Json.Parser
import Resilience.Json.Printer
import Resilience.Xml.Record
/-! # Reports merged into a claim

Every report of a directory is added to the raw results of a claim under its name without the
extension, unless that key is there already. The claim is written only if all of them could be
read and something was added.
-/
namespace Resilience

inductive ClaimError where
  | unreadable (path : String) (reason : FileError)
  | notJson (path : String)
  | notClaim (path : String) (reason : String)
  | report (path : String) (reason : Xml.DocumentError)
  | unwritable (path : String) (reason : FileError)
deriving DecidableEq, Repr

namespace ClaimError

def code : ClaimError → ErrorCode
  | .unreadable _ _ => .snapshotReadError
  | .notJson _ | .notClaim _ _ => .snapshotParseError
  | .report _ _ => .junitParseError
  | .unwritable _ _ => .snapshotWriteError

def message : ClaimError → String
  | .unreadable path reason => s!"failed to read {path}: {reason.message}"
  | .notJson path => s!"claim {path} is not a valid claim document: malformed JSON"
  | .notClaim path reason => s!"claim {path} is not a valid claim document: {reason}"
  | .report path reason => s!"JUnit report {path} could not be converted: {reason.message}"
  | .unwritable path reason => s!"failed to write claim {path}: {reason.message}"

end ClaimError

structure ClaimUpdate where
  claim : String
  added : List String
  skipped : List String
deriving DecidableEq, Repr

namespace ClaimUpdate

def changed (u : ClaimUpdate) : Bool := !u.added.isEmpty

def toJson (u : ClaimUpdate) : Json :=
  .object [("claim", .string u.claim), ("added", .strings u.added),
    ("skipped", .strings u.skipped)]

end ClaimUpdate

namespace Claim

/-- The raw results of a claim; empty ones are made if there are none. -/
def rawResults (document : Json) : Except String (Dict String Json) :=
  match (document.member? "claim").bind Json.members? with
  | none => .error "missing top-level \"claim\" object"
  | some claim =>
    match Dict.find? claim "rawResults" with
    | none => .ok []
    | some (.object results) => .ok results
    | some _ => .error "\"claim.rawResults\" is not an object"

def withRawResults (document : Json) (results : Dict String Json) : Json :=
  match document.member? "claim" with
  | some claim => document.setMember "claim" (claim.setMember "rawResults" (.object results))
  | none => document

/-- The reports in a directory: the names of its files with the extension, in ascending order. -/
def reportNames (files : Files) (dir : String) : Except ClaimError (List String) :=
  match files.filesIn dir with
  | .error e => .error (.unreadable dir e)
  | .ok names => .ok (names.filter fun n => Path.extension? n = some "xml")

def readReport (files : Files) (path : String) : Except ClaimError Json :=
  match files.readText path with
  | .error e => .error (.unreadable path e)
  | .ok text =>
    match Xml.toJson text with
    | .error e => .error (.report path e)
    | .ok j => .ok j

structure Merged where
  results : Dict String Json
  added : List String
  skipped : List String

def addReport (files : Files) (dir : String) (m : Merged) (name : String) :
    Except ClaimError Merged :=
  let key := Path.stem name
  if Dict.contains m.results key then .ok { m with skipped := m.skipped ++ [key] }
  else do
    let j ← readReport files (Path.join dir name)
    pure { m with results := Dict.insert m.results key j, added := m.added ++ [key] }

def readDocument (files : Files) (path : String) : Except ClaimError Json :=
  match files.read path with
  | .error e => .error (.unreadable path e)
  | .ok (.text s) =>
    match Json.parse? s with
    | some j => .ok j
    | none => .error (.notJson path)
  | .ok _ => .error (.notJson path)

def addReports (files : Files) (claim dir : String) : Except ClaimError (ClaimUpdate × Files) := do
  let document ← readDocument files claim
  let results ← (rawResults document).mapError (.notClaim claim)
  let names ← reportNames files dir
  let m ← names.foldlM (addReport files dir) ⟨results, [], []⟩
  let update : ClaimUpdate := ⟨claim, m.added, m.skipped⟩
  if update.changed then
    match files.write claim ((withRawResults document m.results).pretty ++ "\n") with
    | .error e => .error (.unwritable claim e)
    | .ok files => pure (update, files)
  else pure (update, files)

end Claim
end Resilience
