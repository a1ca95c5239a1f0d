import Resilience.Duration.Basic
import Resilience.Json.Basic
/-! # Written durations

A duration is written as its parts from years down to nanoseconds; parts of zero are left out.
A year has 365.25 days and a month 30.44. In records a duration is the double of its seconds: the
sum of its whole seconds and of the fraction that remains, each of them rounded.
-/
namespace Resilience.Duration

/-- Seconds in a year of 365.25 days. -/
def yearSeconds : Nat := 31557600

/-- Seconds in a month of 30.44 days. -/
def monthSeconds : Nat := 2630016

def daySeconds : Nat := 86400

def wordPart (count : Nat) (unit : String) : List String :=
  if count = 0 then [] else if count = 1 then [toString count ++ unit]
  else [toString count ++ unit ++ "s"]

def signPart (count : Nat) (unit : String) : List String :=
  if count = 0 then [] else [toString count ++ unit]

def parts (d : Duration) : List String :=
  let inYear := d.seconds % yearSeconds
  let inMonth := inYear % monthSeconds
  let inDay := inMonth % daySeconds
  wordPart (d.seconds / yearSeconds) "year" ++ wordPart (inYear / monthSeconds) "month" ++
    wordPart (inMonth / daySeconds) "day" ++ signPart (inDay / 3600) "h" ++
    signPart (inDay % 3600 / 60) "m" ++ signPart (inDay % 60) "s" ++
    signPart (d.subsecond / 1000000) "ms" ++ signPart (d.subsecond / 1000 % 1000) "us" ++
    signPart (d.subsecond % 1000) "ns"

/-- The written form; no time at all is `0s`. -/
def text (d : Duration) : String :=
  if d.nanos = 0 then "0s" else " ".intercalate d.parts

def countDouble (n : Nat) : Binary64 := (Binary64.ofNat? false n).getD (Binary64.zero false)

def toDouble (d : Duration) : Binary64 :=
  let fraction := ((countDouble d.subsecond).divide? (countDouble nanosPerSecond)).getD
    (Binary64.zero false)
  ((countDouble d.seconds).plus? fraction).getD (Binary64.zero false)

def secondsJson (d : Duration) : Json := .float d.toDouble

end Resilience.Duration
