import Resilience.Duration.Basic
import Resilience.Duration.Printer
import Resilience.Text.Char
/-! # Reading durations

A bare number counts seconds. Anything else is a sequence of amounts, each a number with an
optional fraction and a unit. Reading goes character by character; blanks may stand between
digits, before a unit and between amounts. Positions in refusals count the bytes before them.
-/
namespace Resilience.Duration

inductive ReadError where
  | empty
  | numberExpected (position : Nat)
  | invalidCharacter (position : Nat)
  | unitNeeded (value : Nat)
  | unknownUnit (unit : String)
  | notExact
deriving DecidableEq, Repr

def ReadError.message : ReadError → String
  | .empty => "value was empty"
  | .numberExpected n => s!"expected number at {n}"
  | .invalidCharacter n => s!"invalid character at {n}"
  | .unitNeeded v => s!"time unit needed, for example {v}sec or {v}ms"
  | .unknownUnit u => "unknown time unit \"" ++ u ++ "\", supported units: ns, us/µs, ms, sec, " ++
      "min, hours, days, weeks, months, years (and few variations)"
  | .notExact => "number is too large or cannot be represented without a lack of precision " ++
      "(values below 1ns are not supported)"

inductive TimeUnit where
  | nanosecond | microsecond | millisecond | second | minute
  | hour | day | week | month | year
deriving DecidableEq, Repr

/-- The spellings of each unit. Case matters: `m` is a minute and `M` a month. -/
def TimeUnit.ofName? : String → Option TimeUnit
  | "nanos" | "nsec" | "ns" => some .nanosecond
  | "usec" | "us" | "µs" => some .microsecond
  | "millis" | "msec" | "ms" => some .millisecond
  | "seconds" | "second" | "secs" | "sec" | "s" => some .second
  | "minutes" | "minute" | "mins" | "min" | "m" => some .minute
  | "hours" | "hour" | "hrs" | "hr" | "h" => some .hour
  | "days" | "day" | "d" => some .day
  | "weeks" | "week" | "wks" | "wk" | "w" => some .week
  | "months" | "month" | "M" => some .month
  | "years" | "year" | "yrs" | "yr" | "y" => some .year
  | _ => none

/-- How a unit counts: in nanoseconds or in whole seconds, and how many of them. -/
inductive TimeUnit.Scale where
  | nanos (factor : Nat)
  | seconds (factor : Nat)

def TimeUnit.scale : TimeUnit → TimeUnit.Scale
  | .nanosecond => .nanos 1
  | .microsecond => .nanos 1000
  | .millisecond => .nanos 1000000
  | .second => .seconds 1
  | .minute => .seconds 60
  | .hour => .seconds 3600
  | .day => .seconds daySeconds
  | .week => .seconds (7 * daySeconds)
  | .month => .seconds monthSeconds
  | .year => .seconds yearSeconds

/-- The size of a unit for its fraction: exact to the nanosecond up to minutes, to the second
above. A nanosecond has no fraction. -/
def TimeUnit.fractionScale : TimeUnit → Option TimeUnit.Scale
  | .nanosecond => none
  | .microsecond => some (.nanos 1000)
  | .millisecond => some (.nanos 1000000)
  | .second => some (.nanos 1000000000)
  | .minute => some (.nanos 60000000000)
  | u => some u.scale

def bounded (n : Nat) : Except ReadError Nat :=
  if n < twoTo 64 then .ok n else .error .notExact

/-- Seconds and nanoseconds added to what was read so far. The nanoseconds alone, and the
seconds, must be counts. -/
def extend (total : Duration) (seconds nanos : Nat) : Except ReadError Duration := do
  let fine ← bounded (total.subsecond + nanos)
  let carried ← bounded (seconds + fine / nanosPerSecond)
  let coarse ← bounded (total.seconds + carried)
  pure ⟨coarse * nanosPerSecond + fine % nanosPerSecond⟩

def extendScaled (total : Duration) (scale : TimeUnit.Scale) (count : Nat → Except ReadError Nat) :
    Except ReadError Duration :=
  match scale with
  | .nanos f => do extend total 0 (← count f)
  | .seconds f => do extend total (← count f) 0

/-- A decimal fraction: the digits after the point and the power of ten below them. -/
structure Fraction where
  numerator : Nat
  denominator : Nat
deriving Repr

def extendAmount (total : Duration) (whole : Nat) (fraction : Option Fraction) (unit : String) :
    Except ReadError Duration := do
  match TimeUnit.ofName? unit with
  | none => .error (if unit = "" then .unitNeeded whole else .unknownUnit unit)
  | some u =>
    let total ← extendScaled total u.scale fun f => bounded (whole * f)
    match fraction with
    | none => pure total
    | some q =>
      match u.fractionScale with
      | none => .error .notExact
      | some s => extendScaled total s fun f => do
          let product ← bounded (q.numerator * f)
          if product % q.denominator = 0 then pure (product / q.denominator)
          else .error .notExact

inductive ReadState where
  /-- A number must come; none has been read yet if `first`. -/
  | expecting (first : Bool) (since : Nat)
  /-- Inside the whole part of a number. -/
  | whole (n : Nat)
  /-- Behind the point. A refusal of the next character names the position `mark`. -/
  | fraction (n : Nat) (digits : Fraction) (mark : Nat)
  /-- Inside a unit, its letters in reverse. -/
  | unit (n : Nat) (fraction : Option Fraction) (letters : List Char)
deriving Repr

def isUnitLetter (c : Char) : Bool :=
  ('a' ≤ c && c ≤ 'z') || ('A' ≤ c && c ≤ 'Z') || c == 'µ'

def readChar (c : Char) (position : Nat) (total : Duration) :
    ReadState → Except ReadError (ReadState × Duration)
  | .expecting first since =>
    match Text.digit? 10 c with
    | some d => .ok (.whole d, total)
    | none => if Text.isBlank c then .ok (.expecting first since, total)
      else .error (.numberExpected since)
  | .whole n =>
    match Text.digit? 10 c with
    | some d => do pure (.whole (← bounded (n * 10 + d)), total)
    | none =>
      if Text.isBlank c then .ok (.whole n, total)
      else if isUnitLetter c then .ok (.unit n none [c], total)
      else if c = '.' then .ok (.fraction n ⟨0, 1⟩ position, total)
      else .error (.invalidCharacter position)
  | .fraction n q mark =>
    match Text.digit? 10 c with
    | some d => do
      let denominator ← bounded (q.denominator * 10)
      let numerator ← bounded (q.numerator * 10 + d)
      pure (.fraction n ⟨numerator, denominator⟩ (position + c.utf8Size), total)
    | none =>
      if Text.isBlank c then .ok (.fraction n q (position + c.utf8Size), total)
      else if isUnitLetter c then
        if q.denominator = 1 then .error (.invalidCharacter mark)
        else .ok (.unit n (some q) [c], total)
      else .error (.invalidCharacter mark)
  | .unit n q letters =>
    match Text.digit? 10 c with
    | some d => do
      let total ← extendAmount total n q (String.ofList letters.reverse)
      pure (.whole d, total)
    | none =>
      if Text.isBlank c then do
        let total ← extendAmount total n q (String.ofList letters.reverse)
        pure (.expecting false (position + c.utf8Size), total)
      else if isUnitLetter c then .ok (.unit n q (c :: letters), total)
      else .error (.invalidCharacter position)

def readEnd (total : Duration) : ReadState → Except ReadError Duration
  | .expecting first _ => if first then .error .empty else .ok total
  | .whole n => extendAmount total n none ""
  | .fraction n q mark =>
    if q.denominator = 1 then .error (.invalidCharacter mark)
    else extendAmount total n (some q) ""
  | .unit n q letters => extendAmount total n q (String.ofList letters.reverse)

def readFrom (total : Duration) (position : Nat) (state : ReadState) :
    List Char → Except ReadError Duration
  | [] => readEnd total state
  | c :: cs =>
    match readChar c position total state with
    | .error e => .error e
    | .ok (state, total) => readFrom total (position + c.utf8Size) state cs

def readAmounts (cs : List Char) : Except ReadError Duration :=
  readFrom zero 0 (.expecting true 0) cs

def digits? (cs : List Char) : Option Nat :=
  if cs = [] then none else
  cs.foldl (fun n? c => do let n ← n?; let d ← Text.digit? 10 c; pure (n * 10 + d)) (some 0)

/-- A number below the bound: decimal digits, a plus sign allowed before them. -/
def count? (bound : Nat) (cs : List Char) : Option Nat :=
  let body := match cs with
    | '+' :: cs => cs
    | cs => cs
  (digits? body).filter (· < bound)

/-- A duration from its text: a bare number of seconds, or amounts with units. -/
def read (s : String) : Except ReadError Duration :=
  let cs := Text.trimChars s.toList
  match count? (twoTo 64) cs with
  | some n => .ok (ofSeconds n)
  | none => readAmounts cs

end Resilience.Duration
