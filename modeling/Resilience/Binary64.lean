/-! # Binary floating point with 64 bits

A finite double as its sign and the exact pair of mantissa and exponent. Every operation rounds
the exact quotient to the nearest double, a tie to the even mantissa, in natural numbers only.
-/
namespace Resilience

def twoTo (n : Nat) : Nat := Nat.pow 2 n

def tenTo (n : Nat) : Nat := Nat.pow 10 n

/-- The double `mantissa · 2 ^ exponent`, with its sign apart. -/
structure Binary64 where
  negative : Bool
  mantissa : Nat
  exponent : Int
deriving DecidableEq, Repr, Inhabited

namespace Binary64

def minExponent : Int := -1074

def maxExponent : Int := 971

def zero (negative : Bool) : Binary64 := ⟨negative, 0, minExponent⟩

/-- The quotient rounded to a whole number, a tie to the even one. -/
def roundQuotient (num den : Nat) : Nat :=
  let q := num / den
  let r := num % den
  if 2 * r < den then q
  else if den < 2 * r then q + 1
  else if q % 2 = 0 then q else q + 1

def scaleDown (num den : Nat) (e : Int) : Nat × Nat :=
  (num * twoTo (-e).toNat, den * twoTo e.toNat)

/-- Mantissa and exponent nearest to a quotient, the exponent unbounded above. -/
def nearest (num den : Nat) : Nat × Int :=
  if num = 0 then (0, minExponent) else
  let guess : Int := (num.log2 : Int) - (den.log2 : Int) - 53
  let wide := scaleDown num den guess
  let fitted := if wide.1 / wide.2 < twoTo 53 then guess else guess + 1
  let e := max fitted minExponent
  let scaled := scaleDown num den e
  let m := roundQuotient scaled.1 scaled.2
  if m = twoTo 53 then (twoTo 52, e + 1) else (m, e)

def ofRatio? (negative : Bool) (num den : Nat) : Option Binary64 :=
  let (m, e) := nearest num den
  if maxExponent < e then none else some ⟨negative, m, e⟩

def num (x : Binary64) : Nat := x.mantissa * twoTo x.exponent.toNat

def den (x : Binary64) : Nat := twoTo (-x.exponent).toNat

def ofNat? (negative : Bool) (n : Nat) : Option Binary64 := ofRatio? negative n 1

def scaleUp? (x y : Binary64) : Option Binary64 :=
  ofRatio? x.negative (x.num * y.num) (x.den * y.den)

def divide? (x y : Binary64) : Option Binary64 :=
  ofRatio? x.negative (x.num * y.den) (x.den * y.num)

def plus? (x y : Binary64) : Option Binary64 :=
  ofRatio? false (x.num * y.den + y.num * x.den) (x.den * y.den)

def isZero (x : Binary64) : Bool := x.mantissa == 0

end Binary64
end Resilience
