import Resilience.Json.Tree
/-! # Reading JSON

A tree becomes a value if its texts are whole, its numbers in range and its containers nested no
deeper than 127. Of a repeated key the last value stays.
-/
namespace Resilience.Json

def maxDepth : Nat := 127

/-- Digits gathered into a count below `2 ^ 64`, and how many of them did not fit. -/
def gather : Nat → List Nat → Nat × List Nat
  | n, [] => (n, [])
  | n, d :: ds => if n * 10 + d < twoTo 64 then gather (n * 10 + d) ds else (n, d :: ds)

def powerOfTen (n : Nat) : Binary64 :=
  (Binary64.ofRatio? false (tenTo n) 1).getD (Binary64.zero false)

/-- A count times a power of ten, by one product or quotient of doubles when the power is at most
308; a smaller one is reached by quotients of `10 ^ 308`. -/
def scaleByPower (f : Binary64) (e : Int) : Nat → Option Binary64
  | 0 => none
  | fuel + 1 =>
    if e.natAbs ≤ 308 then
      if 0 ≤ e then f.scaleUp? (powerOfTen e.natAbs) else f.divide? (powerOfTen e.natAbs)
    else if f.isZero then some f
    else if 0 ≤ e then none
    else (f.divide? (powerOfTen 308)).bind fun g => scaleByPower g (e + 308) fuel

def maxPower : Nat := twoTo 31 - 1

def powerValue? (ds : List Nat) : Option Nat :=
  let n := ds.foldl (fun n d => n * 10 + d) 0
  if n ≤ maxPower then some n else none

def Numeral.float? (n : Numeral) (significand : Nat) (places : Int) : Option Number := do
  let f ← Binary64.ofNat? n.negative significand
  match n.power with
  | none => (scaleByPower f places 8).map .float
  | some (minus, ds) =>
    match powerValue? ds with
    | some p => (scaleByPower f (if minus then places - p else places + p) 8).map .float
    | none =>
      if significand ≠ 0 ∧ minus = false then none else some (.float (Binary64.zero n.negative))

/-- The number that a numeral denotes. Without point and power it is an integer if it is in
range; the negative zero and everything else is a double. -/
def Numeral.number? (n : Numeral) : Option Number :=
  let (significand, rest) := gather 0 n.whole
  match n.fraction, n.power with
  | none, none =>
    if rest.isEmpty then
      if n.negative then
        if significand = 0 ∨ twoTo 63 < significand then n.float? significand 0
        else some (.int (-(significand : Int)))
      else some (.int significand)
    else n.float? significand rest.length
  | none, some _ => n.float? significand rest.length
  | some ds, _ =>
    -- digits beyond the first that does not fit are dropped
    let (whole, beyond) := gather significand ds
    n.float? whole ((rest.length : Int) - (ds.length - beyond.length : Nat))

mutual

def Tree.value? (depth : Nat) : Tree → Option Json
  | .null => some .null
  | .bool b => some (.bool b)
  | .numeral n => n.number?.map .number
  | .string s => s.map .string
  | .array items =>
    match depth with
    | 0 => none
    | depth + 1 => (itemValues? depth items).map .array
  | .object members =>
    match depth with
    | 0 => none
    | depth + 1 => (memberValues? depth members).map fun ms => .object (Dict.ofList ms)

def itemValues? (depth : Nat) : List Tree → Option (List Json)
  | [] => some []
  | t :: ts => do
    let j ← t.value? depth
    let js ← itemValues? depth ts
    pure (j :: js)

def memberValues? (depth : Nat) : List (Option String × Tree) → Option (List (String × Json))
  | [] => some []
  | (key, t) :: ms => do
    let k ← key
    let j ← t.value? depth
    let rest ← memberValues? depth ms
    pure ((k, j) :: rest)

end

def parse? (s : String) : Option Json :=
  (Tree.ofChars? s.toList).bind (·.value? maxDepth)

end Resilience.Json
