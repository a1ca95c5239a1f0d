import Resilience.Scenario.Error
import Resilience.Yaml.Value
/-! # Documents of objects

A stream of YAML documents, each of which is an object of the cluster. Empty documents are left
out but counted.
-/
namespace Resilience

def requiredPaths : List (List String) := [["apiVersion"], ["kind"], ["metadata", "name"]]

def hasText (object : Json) (path : List String) : Bool :=
  ((object.at? path).bind Json.string?).isSome

def checkDocument (source : String) (index : Nat) (value : Json) : Except ObjectError Json :=
  match requiredPaths.find? fun path => !hasText value path with
  | some path => .error (.missingField s!"{source} document {index}" (".".intercalate path))
  | none => .ok value

def checkDocuments (source : String) (index : Nat) :
    List (Option Json) → Except ObjectError (List Json)
  | [] => .ok []
  | none :: _ => .error (.document source index)
  | some value :: rest =>
    if value.isNull then checkDocuments source (index + 1) rest
    else do
      let object ← checkDocument source index value
      pure (object :: (← checkDocuments source (index + 1) rest))

/-- The objects of a text; the first bad document makes it fail. -/
def decodeDocuments (source text : String) : Except ObjectError (List Json) :=
  checkDocuments source 0 (Yaml.values text)

end Resilience
