import Resilience.Binary64
/-! # Decimals and doubles

A decimal of any length becomes the double nearest to its exact value. Powers of ten far outside
the range of doubles are settled without computing them.

Among the decimals that round to a given double, the shortest one has the fewest digits, and of
several it is the one nearest to the double. Decimal grids from coarse to fine are tried in turn;
on each the double has two neighbours, and if any point of the grid rounds to it then one of the
two does.
-/
namespace Resilience.Decimal

def width (n : Nat) : Nat := (toString n).length

def rounded? (negative : Bool) (digits : Nat) (exponent : Int) : Option Binary64 :=
  let leading := exponent + width digits
  if digits = 0 ∨ leading < -330 then some (Binary64.zero negative)
  else if 320 < leading then none
  else Binary64.ofRatio? negative (digits * tenTo exponent.toNat) (tenTo (-exponent).toNat)

def ofDigits (base : Nat) (ds : List Nat) : Nat := ds.foldl (fun n d => n * base + d) 0

/-- The decimal `digits · 10 ^ exponent`. -/
structure Shortest where
  digits : Nat
  exponent : Int
deriving DecidableEq, Repr

/-- Four times the ends of the interval that rounds to the double, in units of its last place. -/
def interval (x : Binary64) : Nat × Nat :=
  let below := if x.mantissa = twoTo 52 ∧ Binary64.minExponent < x.exponent then 1 else 2
  (4 * x.mantissa - below, 4 * x.mantissa + 2)

/-- The decimal rounds to the double: it lies inside the interval, the ends counted exactly when
the mantissa is even. -/
def roundsTo (x : Binary64) (digits : Nat) (exponent : Int) : Bool :=
  let (low, high) := interval x
  -- both sides over the common denominator
  let value := 4 * digits * tenTo exponent.toNat * twoTo (-x.exponent).toNat
  let unit := tenTo (-exponent).toNat * twoTo x.exponent.toNat
  if x.mantissa % 2 = 0 then low * unit ≤ value && value ≤ high * unit
  else low * unit < value && value < high * unit

def leadingExponent (num den : Nat) : Int :=
  let guess : Int := ((num.log2 : Int) - (den.log2 : Int)) * 30103 / 100000
  let reaches (p : Int) : Bool := den * tenTo p.toNat ≤ num * tenTo (-p).toNat
  if reaches (guess + 1) then guess + 1
  else if reaches guess then guess
  else if reaches (guess - 1) then guess - 1
  else guess - 2

/-- The candidate on one grid: of the two neighbours those that round to the double, the nearer
first and of two equally near ones the even. -/
def onGrid? (x : Binary64) (exponent : Int) : Option Nat :=
  let num := x.num * tenTo (-exponent).toNat
  let den := x.den * tenTo exponent.toNat
  let low := num / den
  let rest := num % den
  let lowHolds := 0 < low && roundsTo x low exponent
  let highHolds := roundsTo x (low + 1) exponent
  match lowHolds, highHolds with
  | true, true =>
    some (if 2 * rest < den then low else if den < 2 * rest then low + 1
      else if low % 2 = 0 then low else low + 1)
  | true, false => some low
  | false, true => some (low + 1)
  | false, false => none

def search (x : Binary64) : Nat → Int → Shortest
  | 0, e => ⟨x.num * tenTo (-e).toNat / (x.den * tenTo e.toNat), e⟩
  | fuel + 1, e =>
    match onGrid? x e with
    | some d => ⟨d, e⟩
    | none => search x fuel (e - 1)

def strip : Nat → Shortest → Shortest
  | 0, d => d
  | fuel + 1, d =>
    if d.digits ≠ 0 ∧ d.digits % 10 = 0 then strip fuel ⟨d.digits / 10, d.exponent + 1⟩ else d

/-- The shortest decimal that rounds to a double; zero is `0 · 10 ^ 0`. -/
def shortest (x : Binary64) : Shortest :=
  if x.mantissa = 0 then ⟨0, 0⟩
  else strip 20 (search x 18 (leadingExponent x.num x.den))

def digitChars (n : Nat) : List Char := (toString n).toList

def zeros (n : Nat) : List Char := List.replicate n '0'

/-- Positional notation, with at least one digit on either side of the point. -/
def positional (d : Shortest) : List Char :=
  let ds := digitChars d.digits
  if 0 ≤ d.exponent then ds ++ zeros d.exponent.toNat ++ ['.', '0']
  else
    let places := (-d.exponent).toNat
    if places < ds.length then
      ds.take (ds.length - places) ++ '.' :: ds.drop (ds.length - places)
    else ['0', '.'] ++ zeros (places - ds.length) ++ ds

def scientific (d : Shortest) : List Char :=
  let ds := digitChars d.digits
  let power := d.exponent + (ds.length - 1 : Nat)
  let body := match ds with
    | [] => []
    | [c] => [c]
    | c :: cs => c :: '.' :: cs
  body ++ 'e' :: (if power < 0 then '-' else '+') :: digitChars power.natAbs

end Resilience.Decimal
