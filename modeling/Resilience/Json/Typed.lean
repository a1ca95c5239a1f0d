import Resilience.Json.Parser
/-! # Typed readings of JSON trees

A tree is read straight into a type. Parts that the type does not keep are passed over, whatever
they hold; parts that it keeps must be whole and nest no deeper than the levels allowed. A record
is an object in which no field occurs twice, or the array of its fields in order, which may end
early.
-/
namespace Resilience.Json

/-- A reading of trees with so many levels of containers allowed. -/
abbrev Reading (α : Type) := Nat → Tree → Option α

namespace Tree

def wholeMembers? : List (Option String × Tree) → Option (List (String × Tree))
  | [] => some []
  | (key, t) :: ms => do
    let k ← key
    let rest ← wholeMembers? ms
    pure ((k, t) :: rest)

def single? (key : String) (ms : List (String × Tree)) : Option (Option Tree) :=
  match ms.filter fun m => m.1 = key with
  | [] => some none
  | [m] => some (some m.2)
  | _ => none

def fields? (names : List String) (depth : Nat) : Tree → Option (Nat × List (Option Tree))
  | .object members =>
    match depth with
    | 0 => none
    | depth + 1 => do
      let ms ← wholeMembers? members
      let fs ← names.mapM fun name => single? name ms
      pure (depth, fs)
  | .array items =>
    match depth with
    | 0 => none
    | depth + 1 =>
      if items.length ≤ names.length then
        some (depth, items.map some ++ List.replicate (names.length - items.length) none)
      else none
  | _ => none

def text? : Reading String
  | _, .string s => s
  | _, _ => none

def list? {α : Type} (read : Reading α) : Reading (List α)
  | depth + 1, .array items => items.mapM (read depth)
  | _, _ => none

/-- The members of an object, each read; of a repeated key the last one stays. -/
def dict? {α : Type} (read : Reading α) : Reading (Dict String α)
  | depth + 1, .object members => do
    let ms ← wholeMembers? members
    let pairs ← ms.mapM fun m => (read depth m.2).map fun a => (m.1, a)
    pure (Dict.ofList pairs)
  | _, _ => none

def nullable? {α : Type} (read : Reading α) : Reading (Option α)
  | _, .null => some none
  | depth, t => (read depth t).map some

def defaulted {α : Type} (default : α) (read : Reading α) (depth : Nat) : Option Tree → Option α
  | none => some default
  | some t => read depth t

def wrapper? {α : Type} (name : String) (default : α) (read : Reading α) : Reading α :=
  fun depth t => do
    match ← t.fields? [name] depth with
    | (depth, [f]) => defaulted default read depth f
    | _ => none

end Tree
end Resilience.Json
