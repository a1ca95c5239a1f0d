import Resilience.Cluster.Schema.Metadata
/-! # Objects of any kind, lists and statuses

An object of any kind keeps its members, with metadata that fits. Its type is either two texts,
each given once, or it is no type at all, and what was looked at on the way to finding that out is
dropped.
-/
namespace Resilience

open Json (Document TreePart)

namespace Object

/-- The members after the type was looked for: whether both parts of it were found, and what the
search left. -/
def withoutType : List String → List (String × Json) → Bool × List (String × Json)
  | seen, [] => (seen.length == 2, [])
  | seen, (key, value) :: ms =>
    if key = "apiVersion" ∨ key = "kind" then
      match value with
      | .string _ => if key ∈ seen then (false, ms) else withoutType (key :: seen) ms
      | _ => (false, ms)
    else
      let (found, rest) := withoutType seen ms
      (found, (key, value) :: rest)

/-- The only member with a name, if there is one; two are refused. -/
def single? {δ : Type} (name : String) (ms : List (String × δ)) : Option (Option δ) :=
  match ms.filter fun m => m.1 = name with
  | [] => some none
  | [m] => some (some m.2)
  | _ => none

def others? {δ : Type} [Document δ] (names : List String) (ms : List (String × δ)) :
    Option (List (String × Json)) :=
  (ms.filter fun m => m.1 ∉ names).mapM fun m => (Document.value? m.2).map fun j => (m.1, j)

def read? {δ : Type} [Document δ] (d : δ) : Option Json :=
  match Document.shape d with
  | .members ms => do
    let metadata ← match ← single? "metadata" ms with
      | none => some (.object [])
      | some d => Schema.objectMetadata.read d
    let others ← others? ["metadata"] ms
    let (found, rest) := withoutType [] others
    let kept := if found then others else rest
    pure (.object (Dict.insert (Dict.ofList kept) "metadata" metadata))
  | _ => none

def readList? {δ α : Type} [Document δ] (item : δ → Option α) (d : δ) : Option (List α) :=
  match Document.shape d with
  | .members ms => do
    match ← single? "metadata" ms with
      | none => pure ()
      | some d => let _ ← Schema.listMetadata.read d
    let _ ← others? ["metadata", "items"] ms
    match Document.shape (← ← single? "items" ms) with
    | .null => pure []
    | .items parts => parts.mapM item
    | _ => none
  | _ => none

end Object

namespace Status

open Json.Tree (fields? text? nullable? list? defaulted)

def count? (bits : Nat) : Json.Reading Nat
  | _, .numeral n =>
    match n.number? with
    | some (.int i) => if 0 ≤ i ∧ i < (twoTo bits : Int) then some i.toNat else none
    | _ => none
  | _, _ => none

def failure? (t : Json.Tree) : Option (Nat × String) := do
  match ← t.fields? ["status", "message", "reason", "code"] Json.maxDepth with
  | (depth, [status, message, reason, code]) =>
    let _ ← text? depth (← status)
    let message ← defaulted "" text? depth message
    let _ ← defaulted "" text? depth reason
    pure (← count? 16 depth (← code), message)
  | _ => none

def summary? : Json.Reading String
  | _, .string s => do
    let s ← s
    if s = "Success" ∨ s = "Failure" then some s else none
  | _ + 1, .object [(key, .null)] => do
    let key ← key
    if key = "Success" ∨ key = "Failure" then some key else none
  | _, _ => none

def cause? : Json.Reading Unit := fun depth t => do
  let (depth, fs) ← t.fields? ["reason", "message", "field"] depth
  fs.forM fun f => (defaulted "" text? depth f).map fun _ => ()

def details? : Json.Reading Unit := fun depth t => do
  match ← t.fields? ["name", "group", "kind", "uid", "causes", "retryAfterSeconds"] depth with
  | (depth, [name, group, kind, uid, causes, retry]) =>
    [name, group, kind, uid].forM fun f => (defaulted "" text? depth f).map fun _ => ()
    let _ ← defaulted [] (list? cause?) depth causes
    (defaulted 0 (count? 32) depth retry).map fun _ => ()
  | _ => none

def fits? (t : Json.Tree) : Option Unit := do
  match ← t.fields? ["status", "code", "message", "reason", "details"] Json.maxDepth with
  | (depth, [status, code, message, reason, details]) =>
    let _ ← defaulted none (nullable? summary?) depth status
    let _ ← defaulted 0 (count? 16) depth code
    let _ ← defaulted "" text? depth message
    let _ ← defaulted "" text? depth reason
    (defaulted none (nullable? details?) depth details).map fun _ => ()
  | _ => none

end Status
end Resilience
