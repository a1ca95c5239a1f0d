import Resilience.Cluster.Basic
import Resilience.Text.Escaped
/-! # Requests to an API server

A request names a target under the root of the server. A target is sent up to a number sign, and
only if all of its characters may stand where they do.
-/
namespace Resilience

inductive Method where
  | get
  | post
  | patch
  | delete
deriving DecidableEq, Repr

def Method.name : Method → String
  | .get => "GET"
  | .post => "POST"
  | .patch => "PATCH"
  | .delete => "DELETE"

structure Request where
  method : Method
  target : String
  body : Option (String × Json) := none

structure Response where
  status : Nat
  body : String

namespace Target

def isPathChar (c : Char) : Bool :=
  ' ' < c && c != '#' && c != '?' && c != '<' && c != '>' && c != '\x60'

def isQueryChar (c : Char) : Bool :=
  ' ' < c && c != '#' && c != '"' && c != '<' && c != '>'

def maxLength : Nat := 65534

inductive Problem where
  | emptyName
  | tooLong
  | invalidCharacter
deriving DecidableEq, Repr

def Problem.message : Problem → String
  | .emptyName => "A non-empty name is required"
  | .tooLong => "uri too long"
  | .invalidCharacter => "invalid uri character"

def sent (target : String) : Except Problem String :=
  let cs := target.toList
  let shown := cs.takeWhile fun c => c ≠ '#'
  let path := shown.takeWhile fun c => c ≠ '?'
  let query := (shown.dropWhile fun c => c ≠ '?').drop 1
  if maxLength < target.utf8ByteSize then .error .tooLong
  else if path.all isPathChar && query.all isQueryChar then .ok (String.ofList shown)
  else .error .invalidCharacter

def version (group version : String) : String :=
  let root := if group = "" then "api" else "apis"
  s!"/{root}/{joinApiVersion group version}"

/-- Where the objects of a kind lie. Objects outside namespaces lie in one place. -/
def objects (m : Mapping) (namespaceName : Option String) : String :=
  let place := match m.namespaced, namespaceName with
    | true, some ns => s!"namespaces/{ns}/"
    | _, _ => ""
  s!"{version m.group m.version}/{place}{m.plural}"

def object (m : Mapping) (namespaceName : Option String) (name : String) :
    Except Problem String :=
  if name = "" then .error .emptyName else .ok s!"{objects m namespaceName}/{name}"

end Target
end Resilience
