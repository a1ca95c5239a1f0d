import Resilience.Decimal
import Resilience.Text.Char
/-! # Character references

Markup characters are written in text and in attributes by references: five by name, any
character by its number. An ampersand that begins no reference is refused.
-/
namespace Resilience.Xml

def namedCharacter? (name : List Char) : Option Char :=
  match String.ofList name with
  | "lt" => some '<'
  | "gt" => some '>'
  | "amp" => some '&'
  | "apos" => some '\''
  | "quot" => some '"'
  | _ => none

/-- The character of a number in a base, if there is one; zero counts for none. -/
def numberedCharacter? (base : Nat) (digits : List Char) : Option Char :=
  if digits = [] then none else do
    let ds ← digits.mapM (Text.digit? base)
    let n := Decimal.ofDigits base ds
    if n ≠ 0 ∧ n.isValidChar then some (Char.ofNat n) else none

/-- The character of a reference, by what stands between ampersand and semicolon. -/
def referent? : List Char → Option Char
  | '#' :: 'x' :: digits => numberedCharacter? 16 digits
  | '#' :: digits => numberedCharacter? 10 digits
  | name => namedCharacter? name

/-- The text with its references replaced, the reader standing inside a reference whose
characters so far are in reverse. -/
def resolveFrom? : Option (List Char) → List Char → Option (List Char)
  | none, [] => some []
  | some _, [] => none
  | none, c :: cs =>
    if c = '&' then resolveFrom? (some []) cs
    else (resolveFrom? none cs).map (c :: ·)
  | some seen, c :: cs =>
    if c = '&' then none
    else if c = ';' then do
      let d ← referent? seen.reverse
      let rest ← resolveFrom? none cs
      pure (d :: rest)
    else resolveFrom? (some (c :: seen)) cs

def resolve? (cs : List Char) : Option (List Char) := resolveFrom? none cs

end Resilience.Xml
