/-! # Places in a YAML text

Block structure is told by columns, so every character is read together with its line and its
column. The ends of lines are made alike first, and behind the last character stands an end mark.
-/
namespace Resilience.Yaml

structure Spot where
  char : Char
  line : Nat
  column : Nat
deriving DecidableEq, Repr

/-- What stands behind the last character. No text holds it. -/
def endMark : Char := '\x00'

def isAllowed (c : Char) : Bool :=
  let n := c.toNat
  n == 0x09 || n == 0x0A || n == 0x0D || (0x20 ≤ n && n ≤ 0x7E) || n == 0x85 ||
    (0xA0 ≤ n && n ≤ 0xFFFD) || 0x10000 ≤ n

def isBreak (c : Char) : Bool := c == '\n' || c == '\u2028' || c == '\u2029'

def isBlank (c : Char) : Bool := c == ' ' || c == '\t'

def isLineEnd (c : Char) : Bool := isBreak c || c == endMark

def isGap (c : Char) : Bool := isBlank c || isLineEnd c

def isNameChar (c : Char) : Bool :=
  ('a' ≤ c && c ≤ 'z') || ('A' ≤ c && c ≤ 'Z') || ('0' ≤ c && c ≤ '9') || c == '_' || c == '-'

def spotsFrom (line column : Nat) : List Char → List Spot
  | [] => [⟨endMark, line, column⟩]
  | '\r' :: '\n' :: cs => ⟨'\n', line, column⟩ :: spotsFrom (line + 1) 0 cs
  | c :: cs =>
    if c = '\r' ∨ c = '\n' ∨ c = '\u0085' then ⟨'\n', line, column⟩ :: spotsFrom (line + 1) 0 cs
    else if isBreak c then ⟨c, line, column⟩ :: spotsFrom (line + 1) 0 cs
    else ⟨c, line, column⟩ :: spotsFrom line (column + 1) cs

def spots? (s : String) : Option (List Spot) :=
  if s.toList.all isAllowed then some (spotsFrom 0 0 s.toList) else none

def front : List Spot → Char
  | [] => endMark
  | s :: _ => s.char

def second (spots : List Spot) : Char := front spots.tail

/-- The front is on the first column and begins with this mark, a gap behind it. -/
def atMark (c : Char) : List Spot → Bool
  | s :: t :: u :: rest =>
    s.column == 0 && s.char == c && t.char == c && u.char == c && isGap (front rest)
  | _ => false

def atDocumentMark (spots : List Spot) : Bool := atMark '-' spots || atMark '.' spots

def chars (spots : List Spot) : List Char := spots.map (·.char)

def spanChars (p : Char → Bool) (spots : List Spot) : List Char × List Spot :=
  (chars (spots.takeWhile fun s => p s.char), spots.dropWhile fun s => p s.char)

end Resilience.Yaml
