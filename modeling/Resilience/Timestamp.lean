import Resilience.Calendar
import Resilience.Text.Char
/-! # Points in time

A point in time is read from a date, a time of day and an offset from universal time, and is
written to the second in universal time. Blanks may stand between the parts.
-/
namespace Resilience

/-- A day, a minute of it and a second of that; a lengthened minute has a second 60. -/
structure Timestamp where
  day : Int
  minute : Nat
  second : Nat
deriving DecidableEq, Repr

namespace Timestamp

/-! ## Reading -/

def skipBlanks (cs : List Char) : List Char := cs.dropWhile Text.isBlank

/-- A number of at least one and at most so many digits, and what follows. -/
def number? (most : Nat) (cs : List Char) : Option (Nat × List Char) :=
  let cs := skipBlanks cs
  let digits := (cs.take most).takeWhile Char.isDigit
  if digits.isEmpty then none
  else some (digits.foldl (fun n c => n * 10 + (c.toNat - 48)) 0, cs.drop digits.length)

/-- A year: four digits at most, or a sign and any number of digits. -/
def year? (cs : List Char) : Option (Int × List Char) :=
  match skipBlanks cs with
  | '-' :: cs => if (cs.head?.map Char.isDigit).getD false then
      (number? cs.length cs).map fun r => (-(r.1 : Int), r.2) else none
  | '+' :: cs => if (cs.head?.map Char.isDigit).getD false then
      (number? cs.length cs).map fun r => ((r.1 : Int), r.2) else none
  | cs => (number? 4 cs).map fun r => ((r.1 : Int), r.2)

def mark? (mark : Char) (cs : List Char) : Option (List Char) :=
  match skipBlanks cs with
  | c :: cs => if c = mark then some cs else none
  | [] => none

def pair? : List Char → Option (Nat × List Char)
  | a :: b :: cs => do
    let m ← Text.digit? 10 a
    let n ← Text.digit? 10 b
    pure (m * 10 + n, cs)
  | _ => none

def skipFraction? : List Char → Option (List Char)
  | '.' :: cs => if (cs.head?.map Char.isDigit).getD false then some (cs.dropWhile Char.isDigit)
      else none
  | cs => some cs

def offsetMinutes? (cs : List Char) : Option (Nat × List Char) := do
  let (hours, cs) ← pair? cs
  let (minutes, cs) ← pair? (cs.dropWhile fun c => c = ':' || Text.isBlank c)
  if minutes < 60 ∧ hours < 24 then pure (hours * 60 + minutes, cs) else none

def offset? : List Char → Option (Int × List Char)
  | a :: b :: c :: cs =>
    if a.toUpper = 'U' ∧ b.toUpper = 'T' ∧ c.toUpper = 'C' then some (0, cs)
    else signed? (a :: b :: c :: cs)
  | cs => signed? cs
where
  /-- A letter for universal time itself, or a sign and the offset. -/
  signed? : List Char → Option (Int × List Char)
    | [] => none
    | c :: cs =>
      if c = 'Z' ∨ c = 'z' then some (0, cs)
      else if c = '+' then (offsetMinutes? cs).map fun r => ((r.1 : Int), r.2)
      else if c = '-' ∨ c = '−' then (offsetMinutes? cs).map fun r => (-(r.1 : Int), r.2)
      else none

def read? (s : String) : Option Timestamp := do
  let (year, cs) ← year? s.toList
  let (month, cs) ← number? 2 (← mark? '-' cs)
  let (dayOfMonth, cs) ← number? 2 (← mark? '-' cs)
  let cs ← match cs with
    | c :: cs => if c = 'T' ∨ c = 't' ∨ c = ' ' then some cs else none
    | [] => none
  let (hour, cs) ← number? 2 cs
  let (minute, cs) ← number? 2 (← mark? ':' cs)
  let (second, cs) ← number? 2 (← mark? ':' cs)
  let (offset, cs) ← offset? (skipBlanks (← skipFraction? cs))
  let day ← Calendar.dayOfDate? year month dayOfMonth
  if hour < 24 ∧ minute < 60 ∧ second ≤ 60 ∧ (skipBlanks cs).isEmpty then
    let minutes := (hour * 60 + minute : Nat) - offset
    pure ⟨day + minutes.fdiv 1440, (minutes.fmod 1440).toNat, second⟩
  else none

/-! ## Writing -/

def padded (width n : Nat) : List Char :=
  let ds := Nat.toDigits 10 n
  List.replicate (width - ds.length) '0' ++ ds

/-- A year: four digits, or a sign and at least four digits where four do not suffice. -/
def yearChars (year : Int) : List Char :=
  if 0 ≤ year ∧ year ≤ 9999 then padded 4 year.toNat
  else (if year < 0 then '-' else '+') :: padded 4 year.natAbs

def text (t : Timestamp) : String :=
  let (year, month, day) := Calendar.dateOfDay t.day
  String.ofList (yearChars year ++ '-' :: padded 2 month ++ '-' :: padded 2 day ++
    'T' :: padded 2 (t.minute / 60) ++ ':' :: padded 2 (t.minute % 60) ++
    ':' :: padded 2 t.second ++ ['Z'])

end Timestamp
end Resilience
