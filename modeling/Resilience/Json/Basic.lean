import Resilience.Binary64
import Resilience.Dict
/-! # JSON values

Integers and floats are different numbers: `1` is not `1.0`. The members of an object are kept
in the order of the list; objects that were read have ascending keys.
-/
namespace Resilience

/-- A number: an integer of 64 bits, signed or unsigned, or a double. -/
inductive Json.Number where
  | int (n : Int)
  | float (x : Binary64)
deriving DecidableEq, Repr

inductive Json where
  | null
  | bool (b : Bool)
  | number (n : Json.Number)
  | string (s : String)
  | array (items : List Json)
  | object (members : List (String × Json))
deriving Inhabited

namespace Json

def int (n : Int) : Json := .number (.int n)

def nat (n : Nat) : Json := .number (.int n)

def float (x : Binary64) : Json := .number (.float x)

def strings (items : List String) : Json := .array (items.map .string)

def ofOption {α : Type} (f : α → Json) : Option α → Json
  | none => .null
  | some a => f a

def optional {α : Type} (key : String) (f : α → Json) : Option α → List (String × Json)
  | none => []
  | some a => [(key, f a)]

def isNull : Json → Bool
  | .null => true
  | _ => false

def string? : Json → Option String
  | .string s => some s
  | _ => none

def members? : Json → Option (Dict String Json)
  | .object ms => some ms
  | _ => none

def items? : Json → Option (List Json)
  | .array items => some items
  | _ => none

def member? : Json → String → Option Json
  | .object ms, key => Dict.find? ms key
  | _, _ => none

def at? (j : Json) : List String → Option Json
  | [] => some j
  | key :: path => (j.member? key).bind (·.at? path)

/-- An object with this member set; any other value stays as it is. -/
def setMember (j : Json) (key : String) (value : Json) : Json :=
  match j with
  | .object ms => .object (Dict.insert ms key value)
  | other => other

@[simp] theorem member?_object (ms : List (String × Json)) (key : String) :
    (object ms).member? key = Dict.find? ms key := rfl

@[simp] theorem at?_nil (j : Json) : j.at? [] = some j := rfl

@[simp] theorem at?_cons (j : Json) (key : String) (path : List String) :
    j.at? (key :: path) = (j.member? key).bind (·.at? path) := rfl

end Json
end Resilience
