import Resilience.Json.Basic
/-! # Records in JSON

A record is written as an object, where members it does not know are passed over, or as the
array of its fields in order, where fields at the end may be missing but none may be surplus.
-/
namespace Resilience.Json

def fields? (names : List String) : Json → Option (List (Option Json))
  | .object ms => some (names.map fun name => Dict.find? ms name)
  | .array items =>
    if items.length ≤ names.length then
      some (items.map some ++ List.replicate (names.length - items.length) none)
    else none
  | _ => none

def requiredText? (field : Option Json) : Option String :=
  field.bind Json.string?

/-- The text of a field with a default. A field that is given must be a text. -/
def defaultText? (default : String) : Option Json → Option String
  | none => some default
  | some j => j.string?

/-- The name of a choice: a text, or an object with the name as its only key and null below. -/
def choice? : Json → Option String
  | .string s => some s
  | .object [(name, .null)] => some name
  | _ => none

end Resilience.Json
