import Resilience.Json.Basic
import Resilience.Text.Char
/-! # JSON tokens

A text is cut into tokens character by character. Strings and numbers are only checked for their
form here: a string with an unpaired surrogate, or a number out of range, is a token all the
same, since parts of a document that nobody keeps are not looked at more closely.
-/
namespace Resilience.Json

structure Numeral where
  negative : Bool
  whole : List Nat
  /-- The digits behind the point, if there is one. -/
  fraction : Option (List Nat)
  /-- The sign and the digits of the power of ten, if there is one. -/
  power : Option (Bool × List Nat)
deriving DecidableEq, Repr

inductive Token where
  | openBrace | closeBrace | openBracket | closeBracket | comma | colon
  | null
  | bool (b : Bool)
  | numeral (n : Numeral)
  /-- The text of a string, absent if it holds an unpaired surrogate. -/
  | string (s : Option String)
deriving DecidableEq, Repr

/-- The characters of a string read so far, in reverse; `none` once an unpaired surrogate was
met. A leading surrogate waits for its partner. -/
structure Spelling where
  chars : Option (List Char)
  waiting : Option Nat
deriving DecidableEq, Repr

namespace Spelling

def start : Spelling := ⟨some [], none⟩

def push (s : Spelling) (c : Char) : Spelling :=
  match s.waiting with
  | none => ⟨s.chars.map (c :: ·), none⟩
  | some _ => ⟨none, none⟩

/-- A code unit of sixteen bits follows, from an escape. -/
def pushUnit (s : Spelling) (n : Nat) : Spelling :=
  match s.waiting with
  | some lead =>
    if 0xDC00 ≤ n ∧ n ≤ 0xDFFF then
      let code := (lead - 0xD800) * 0x400 + (n - 0xDC00) + 0x10000
      ⟨s.chars.map (Char.ofNat code :: ·), none⟩
    else ⟨none, none⟩
  | none =>
    if 0xD800 ≤ n ∧ n ≤ 0xDBFF then ⟨s.chars, some n⟩
    else if 0xDC00 ≤ n ∧ n ≤ 0xDFFF then ⟨none, none⟩
    else ⟨s.chars.map (Char.ofNat n :: ·), none⟩

def finish (s : Spelling) : Option String :=
  match s.waiting with
  | some _ => none
  | none => s.chars.map fun cs => String.ofList cs.reverse

end Spelling

/-- How far a number has been read. Digits are in reverse. -/
inductive NumeralState where
  | sign
  | zero (negative : Bool)
  | whole (negative : Bool) (digits : List Nat)
  | point (negative : Bool) (whole : List Nat)
  | fraction (negative : Bool) (whole digits : List Nat)
  | mark (negative : Bool) (whole : List Nat) (fraction : Option (List Nat))
  | powerSign (negative : Bool) (whole : List Nat) (fraction : Option (List Nat)) (minus : Bool)
  | power (negative : Bool) (whole : List Nat) (fraction : Option (List Nat)) (minus : Bool)
      (digits : List Nat)
deriving DecidableEq, Repr

namespace NumeralState

def finish? : NumeralState → Option Numeral
  | .zero n => some ⟨n, [0], none, none⟩
  | .whole n ds => some ⟨n, ds.reverse, none, none⟩
  | .fraction n w ds => some ⟨n, w, some ds.reverse, none⟩
  | .power n w f m ds => some ⟨n, w, f, some (m, ds.reverse)⟩
  | _ => none

def next? (s : NumeralState) (c : Char) : Option NumeralState :=
  match s, Text.digit? 10 c with
  | .sign, some 0 => some (.zero true)
  | .sign, some d => some (.whole true [d])
  | .whole n ds, some d => some (.whole n (d :: ds))
  | .point n w, some d => some (.fraction n w [d])
  | .fraction n w ds, some d => some (.fraction n w (d :: ds))
  | .mark n w f, some d => some (.power n w f false [d])
  | .powerSign n w f m, some d => some (.power n w f m [d])
  | .power n w f m ds, some d => some (.power n w f m (d :: ds))
  | .zero n, none =>
    if c = '.' then some (.point n [0])
    else if c = 'e' ∨ c = 'E' then some (.mark n [0] none) else none
  | .whole n ds, none =>
    if c = '.' then some (.point n ds.reverse)
    else if c = 'e' ∨ c = 'E' then some (.mark n ds.reverse none) else none
  | .fraction n w ds, none =>
    if c = 'e' ∨ c = 'E' then some (.mark n w (some ds.reverse)) else none
  | .mark n w f, none =>
    if c = '+' then some (.powerSign n w f false)
    else if c = '-' then some (.powerSign n w f true) else none
  | _, _ => none

end NumeralState

inductive LexState where
  | between
  /-- A word that has to continue with these characters, and its token. -/
  | word (rest : List Char) (token : Token)
  | numeral (state : NumeralState)
  | string (spelling : Spelling)
  | escape (spelling : Spelling)
  /-- Behind `\u`: digits still to come and the value so far. -/
  | hex (spelling : Spelling) (left value : Nat)
deriving DecidableEq, Repr

def lexBetween (c : Char) : Option (List Token × LexState) :=
  match c with
  | ' ' | '\n' | '\r' | '\t' => some ([], .between)
  | '{' => some ([.openBrace], .between)
  | '}' => some ([.closeBrace], .between)
  | '[' => some ([.openBracket], .between)
  | ']' => some ([.closeBracket], .between)
  | ',' => some ([.comma], .between)
  | ':' => some ([.colon], .between)
  | '"' => some ([], .string .start)
  | 'n' => some ([], .word ['u', 'l', 'l'] .null)
  | 't' => some ([], .word ['r', 'u', 'e'] (.bool true))
  | 'f' => some ([], .word ['a', 'l', 's', 'e'] (.bool false))
  | '-' => some ([], .numeral .sign)
  | c =>
    match Text.digit? 10 c with
    | some 0 => some ([], .numeral (.zero false))
    | some d => some ([], .numeral (.whole false [d]))
    | none => none

def escaped? : Char → Option Char
  | '"' => some '"'
  | '\\' => some '\\'
  | '/' => some '/'
  | 'b' => some (Char.ofNat 8)
  | 'f' => some (Char.ofNat 12)
  | 'n' => some '\n'
  | 'r' => some '\r'
  | 't' => some '\t'
  | _ => none

def lexChar (c : Char) : LexState → Option (List Token × LexState)
  | .between => lexBetween c
  | .word [] _ => none
  | .word [d] t => if c = d then some ([t], .between) else none
  | .word (d :: e :: rest) t => if c = d then some ([], .word (e :: rest) t) else none
  | .numeral s =>
    match s.next? c with
    | some s => some ([], .numeral s)
    | none => do
      let n ← s.finish?
      let (ts, state) ← lexBetween c
      pure (.numeral n :: ts, state)
  | .string s =>
    if c = '"' then some ([.string s.finish], .between)
    else if c = '\\' then some ([], .escape s)
    else if c.toNat < 32 then none
    else some ([], .string (s.push c))
  | .escape s =>
    if c = 'u' then some ([], .hex s 4 0)
    else (escaped? c).map fun d => ([], .string (s.push d))
  | .hex s left value => do
    let d ← Text.digit? 16 c
    let value := value * 16 + d
    if left ≤ 1 then pure ([], .string (s.pushUnit value))
    else pure ([], .hex s (left - 1) value)

def tokensFrom : LexState → List Char → Option (List Token)
  | .between, [] => some []
  | .numeral s, [] => s.finish?.map fun n => [.numeral n]
  | _, [] => none
  | state, c :: cs =>
    match lexChar c state with
    | none => none
    | some (ts, state) => (tokensFrom state cs).map (ts ++ ·)

def tokens (cs : List Char) : Option (List Token) := tokensFrom .between cs

end Resilience.Json
