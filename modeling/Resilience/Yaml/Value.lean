import Resilience.Decimal
import Resilience.Json.Basic
import Resilience.Yaml.Node
/-! # Values of YAML documents

A plain scalar is null, a truth value, a number or a text by its spelling; quoted ones are texts.
Aliases are replaced by the nodes they stand for. How deep a value may nest and how many aliases
may be replaced is limited, so that a small text gives no huge value.
-/
namespace Resilience.Yaml

def isNull (s : String) : Bool := s ∈ ["null", "Null", "NULL", "~"]

def bool? (s : String) : Option Bool :=
  if s ∈ ["true", "True", "TRUE"] then some true
  else if s ∈ ["false", "False", "FALSE"] then some false
  else none

def digits? (base : Nat) (cs : List Char) : Option Nat :=
  if cs = [] then none else (cs.mapM (Text.digit? base)).map (Decimal.ofDigits base)

/-- The value of an unsigned whole number. A decimal one has no zero in front. -/
def magnitude? (cs : List Char) : Option Nat :=
  match cs with
  | '0' :: 'x' :: ds => digits? 16 ds
  | '0' :: 'o' :: ds => digits? 8 ds
  | '0' :: 'b' :: ds => digits? 2 ds
  | '0' :: _ :: _ => none
  | ds => digits? 10 ds

def wholeNumber? (cs : List Char) : Option Int :=
  match cs with
  | '-' :: ds => (magnitude? ds).map fun n => -(n : Int)
  | '+' :: ds => (magnitude? ds).map Int.ofNat
  | ds => (magnitude? ds).map Int.ofNat

def fitsJson (n : Int) : Bool := -(twoTo 63 : Int) ≤ n && n < (twoTo 64 : Int)

/-- A whole number that is too large for JSON and is not taken for a decimal either. -/
def isWide (n : Int) : Bool := !fitsJson n && -(twoTo 127 : Int) ≤ n && n < (twoTo 128 : Int)

def unsigned (cs : List Char) : Bool × List Char :=
  match cs with
  | '-' :: ds => (true, ds)
  | '+' :: ds => (false, ds)
  | ds => (false, ds)

/-- Digits with zeros in front, which are a text. -/
def isPadded (cs : List Char) : Bool :=
  match (unsigned cs).2 with
  | '0' :: d :: ds => (d :: ds).all fun c => (Text.digit? 10 c).isSome
  | _ => false

def isPowerMark (c : Char) : Bool := c == 'e' || c == 'E'

def power? : List Char → Option Int
  | [] => some 0
  | _ :: cs =>
    let (negative, ds) := unsigned cs
    (digits? 10 ds).map fun n => if negative then -(n : Int) else n

def decimal? (cs : List Char) : Option Binary64 := do
  let (negative, body) := unsigned cs
  let mantissa := body.takeWhile (!isPowerMark ·)
  let power ← power? (body.dropWhile (!isPowerMark ·))
  let whole := mantissa.takeWhile (· ≠ '.')
  let fraction := (mantissa.dropWhile (· ≠ '.')).drop 1
  let n ← digits? 10 (whole ++ fraction)
  Decimal.rounded? negative n (power - fraction.length)

/-- The text spells an infinity or no number, both of which JSON has no value for. -/
def isSpecial (cs : List Char) : Bool :=
  let infinities := ["inf", "Inf", "INF"].map fun s => '.' :: s.toList
  (unsigned cs).2 ∈ infinities || cs ∈ ["nan", "NaN", "NAN"].map fun s => '.' :: s.toList

def float? (cs : List Char) : Option Json :=
  if isSpecial cs then some .null else (decimal? cs).map Json.float

/-- The whole number that a text spells. The inner value is absent if it is too large. -/
def int? (cs : List Char) : Option (Option Json) :=
  match wholeNumber? cs with
  | some n => if fitsJson n then some (some (.int n)) else if isWide n then some none else none
  | none => none

def plainValue? (s : String) : Option Json :=
  let cs := s.toList
  if s = "" ∨ isNull s then some .null
  else match bool? s with
    | some b => some (.bool b)
    | none =>
      match int? cs with
      | some value => value
      | none =>
        if isPadded cs then some (.string s)
        else some ((float? cs).getD (.string s))

/-- The tag belongs to the document that uses it, and says that the node is no plain value. -/
def isLocalTag (tag : Option String) : Bool := tag.any (·.startsWith "!")

def scalarValue? (tag : Option String) (text : String) (plain : Bool) : Option Json :=
  match tag with
  | none => if plain then plainValue? text else some (.string text)
  | some "tag:yaml.org,2002:bool" => (bool? text).map .bool
  | some "tag:yaml.org,2002:int" => (int? text.toList).join
  | some "tag:yaml.org,2002:float" => float? text.toList
  | some "tag:yaml.org,2002:null" => if isNull text then some .null else none
  | some _ => if isLocalTag tag then none else some (.string text)

def maxDepth : Nat := 128

namespace Document

def target? (d : Document) (number : Nat) : Option Node :=
  (Dict.find? d.serials number).bind (Dict.find? d.nodes)

/-- A step of reading a value. It counts the aliases that were replaced. -/
abbrev Reading := StateT Nat Option

def direct (d : Document) : Node → Reading Node
  | .alias number => fun jumps =>
    if d.size * 100 < jumps + 1 then none else (d.target? number).map fun n => (n, jumps + 1)
  | n => pure n

def key (d : Document) (n : Node) : Reading String := do
  match ← d.direct n with
  | .scalar _ text _ => pure text
  | _ => failure

/-- The value of a node, nested at most so deep. The last value of a repeated key stays. -/
def value (d : Document) : Nat → Node → Reading Json
  | 0, n => do
    match ← d.direct n with
    | .scalar tag text plain => fun jumps => (scalarValue? tag text plain).map (·, jumps)
    | _ => failure
  | depth + 1, n => do
    match ← d.direct n with
    | .scalar tag text plain => fun jumps => (scalarValue? tag text plain).map (·, jumps)
    | .sequence tag items =>
      if isLocalTag tag then failure else .array <$> items.mapM (value d depth)
    | .mapping tag pairs =>
      if isLocalTag tag then failure
      else do
        let members ← pairs.mapM fun p => do
          let k ← d.key p.1
          let v ← value d depth p.2
          pure (k, v)
        pure (.object (Dict.ofList members))
    | .alias _ => failure

def toJson? (d : Document) : Option Json := ((d.value maxDepth d.root).run 0).map Prod.fst

end Document

/-- The values of the documents of a text; none stands for one that has no value. -/
def values (s : String) : List (Option Json) :=
  (documents s).map fun d => d.bind Document.toJson?

end Resilience.Yaml
