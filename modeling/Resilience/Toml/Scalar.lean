import Resilience.Calendar
import Resilience.Decimal
import Resilience.Text.Char
import Resilience.Toml.Basic
/-! # Unquoted TOML values

Truth values, integers in four bases, floats, dates and times.
-/
namespace Resilience.Toml

def groupedDigits? (base : Nat) : List Char → Option (List Nat)
  | [] => none
  | [c] => (Text.digit? base c).map ([·])
  | c :: '_' :: cs => do
    let d ← Text.digit? base c
    let ds ← groupedDigits? base cs
    pure (d :: ds)
  | c :: cs => do
    let d ← Text.digit? base c
    let ds ← groupedDigits? base cs
    pure (d :: ds)

/-- Decimal digits of a whole part: no zero before another digit. -/
def wholeDigits? (cs : List Char) : Option (List Nat) := do
  let ds ← groupedDigits? 10 cs
  match ds with
  | 0 :: _ :: _ => none
  | ds => pure ds

def signed (cs : List Char) : Bool × List Char :=
  match cs with
  | '-' :: cs => (true, cs)
  | '+' :: cs => (false, cs)
  | cs => (false, cs)

/-- An integer; the bases other than ten take no sign. -/
def int? (cs : List Char) : Option Int :=
  match cs with
  | '0' :: 'x' :: cs => (groupedDigits? 16 cs).map fun ds => (Decimal.ofDigits 16 ds : Int)
  | '0' :: 'o' :: cs => (groupedDigits? 8 cs).map fun ds => (Decimal.ofDigits 8 ds : Int)
  | '0' :: 'b' :: cs => (groupedDigits? 2 cs).map fun ds => (Decimal.ofDigits 2 ds : Int)
  | cs =>
    let (negative, body) := signed cs
    (wholeDigits? body).map fun ds =>
      if negative then -(Decimal.ofDigits 10 ds : Int) else Decimal.ofDigits 10 ds

def isPowerMark (c : Char) : Bool := c == 'e' || c == 'E'

def power? (cs : List Char) : Option Int :=
  match cs with
  | [] => some 0
  | _ :: cs =>
    let (negative, body) := signed cs
    (groupedDigits? 10 body).map fun ds =>
      if negative then -(Decimal.ofDigits 10 ds : Int) else Decimal.ofDigits 10 ds

def float? (cs : List Char) : Option Float :=
  let (negative, body) := signed cs
  if body = ['i', 'n', 'f'] then some (.infinite negative)
  else if body = ['n', 'a', 'n'] then some .nan
  else do
    let mantissa := body.takeWhile fun c => !isPowerMark c
    let tail := body.dropWhile fun c => !isPowerMark c
    let whole ← wholeDigits? (mantissa.takeWhile (· ≠ '.'))
    let fraction ← match mantissa.dropWhile (· ≠ '.') with
      | [] => if tail.isEmpty then none else some []
      | _ :: ds => groupedDigits? 10 ds
    let power ← power? tail
    let x ← Decimal.rounded? negative (Decimal.ofDigits 10 (whole ++ fraction))
      (power - fraction.length)
    pure (.finite x)

def fixedDigits? : Nat → List Char → Option (Nat × List Char)
  | 0, cs => some (0, cs)
  | n + 1, c :: cs => do
    let d ← Text.digit? 10 c
    let (rest, cs) ← fixedDigits? n cs
    pure (d * tenTo n + rest, cs)
  | _ + 1, [] => none

def date? (cs : List Char) : Option (List Char) := do
  let (year, cs) ← fixedDigits? 4 cs
  match cs with
  | '-' :: cs =>
    let (month, cs) ← fixedDigits? 2 cs
    match cs with
    | '-' :: cs =>
      let (day, cs) ← fixedDigits? 2 cs
      if 1 ≤ month ∧ month ≤ 12 ∧ 1 ≤ day ∧ day ≤ Calendar.monthLength year month then pure cs else none
    | _ => none
  | _ => none

def secondFraction? (cs : List Char) : Option (List Char) :=
  match cs with
  | '.' :: cs =>
    match cs.takeWhile (fun c => (Text.digit? 10 c).isSome) with
    | [] => none
    | _ :: _ => some (cs.dropWhile fun c => (Text.digit? 10 c).isSome)
  | cs => some cs

def time? (cs : List Char) : Option (List Char) := do
  let (hour, cs) ← fixedDigits? 2 cs
  match cs with
  | ':' :: cs =>
    let (minute, cs) ← fixedDigits? 2 cs
    if 23 < hour ∨ 59 < minute then none else
    match cs with
    | ':' :: cs =>
      let (second, cs) ← fixedDigits? 2 cs
      if 60 < second then none else secondFraction? cs
    | cs => pure cs
  | _ => none

def isOffset (cs : List Char) : Bool :=
  match cs with
  | ['Z'] | ['z'] => true
  | sign :: cs =>
    (sign == '+' || sign == '-') &&
      match fixedDigits? 2 cs with
      | some (hour, ':' :: cs) =>
        match fixedDigits? 2 cs with
        | some (minute, []) => hour ≤ 23 && minute ≤ 59
        | _ => false
      | _ => false
  | [] => false

def isDatetime (cs : List Char) : Bool :=
  match date? cs with
  | some [] => true
  | some (sep :: cs) =>
    (sep == 'T' || sep == 't' || sep == ' ') &&
      match time? cs with
      | some [] => true
      | some cs => isOffset cs
      | none => false
  | none => time? cs == some []

def scalar? (cs : List Char) : Option Toml :=
  if cs = "true".toList then some (.bool true)
  else if cs = "false".toList then some (.bool false)
  else match int? cs with
    | some n => some (.int n)
    | none =>
      match float? cs with
      | some x => some (.float x)
      | none => if isDatetime cs then some .datetime else none

end Resilience.Toml
