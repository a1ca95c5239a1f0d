import Resilience.Binary64
import Resilience.Dict
/-! # TOML values

The tables of a document have ascending keys.
-/
namespace Resilience

inductive Toml.Float where
  | finite (x : Binary64)
  | infinite (negative : Bool)
  | nan
deriving DecidableEq, Repr

/-- A TOML value. Dates and times are only told apart from the other kinds. -/
inductive Toml where
  | string (s : String)
  | int (n : Int)
  | float (x : Toml.Float)
  | bool (b : Bool)
  | datetime
  | array (items : List Toml)
  | table (entries : List (String × Toml))
deriving Inhabited

namespace Toml

def entries? : Toml → Option (Dict String Toml)
  | .table es => some es
  | _ => none

mutual

def hasWideInt : Toml → Bool
  | .int n => decide (n < -(twoTo 63 : Int)) || decide ((twoTo 63 : Int) ≤ n)
  | .array items => anyWideInt items
  | .table es => anyWideEntry es
  | _ => false

def anyWideInt : List Toml → Bool
  | [] => false
  | t :: ts => t.hasWideInt || anyWideInt ts

def anyWideEntry : List (String × Toml) → Bool
  | [] => false
  | (_, t) :: es => t.hasWideInt || anyWideEntry es

end

end Toml
end Resilience
