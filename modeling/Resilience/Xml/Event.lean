import Resilience.Text.Split
import Resilience.Xml.Reference
/-! # XML events

A document is a sequence of tags, stretches of text and asides. Names are not checked: a name is
whatever stands before the first blank of a tag. What cannot be read ends the sequence.
-/
namespace Resilience.Xml

abbrev Attributes := List (String × String)

inductive Event where
  | opened (name : String) (attributes : Attributes)
  /-- A tag that closes itself. -/
  | leaf (name : String) (attributes : Attributes)
  | closed (name : String)
  /-- A stretch of text; absent if a reference in it cannot be resolved. -/
  | text (content : Option String)
  /-- A comment, an instruction, a declaration or a document type. -/
  | aside
  /-- The rest of the document cannot be read. -/
  | malformed
deriving DecidableEq, Repr

def isSpace (c : Char) : Bool := c == ' ' || c == '\t' || c == '\n' || c == '\r'

def skipSpace (cs : List Char) : List Char := cs.dropWhile isSpace

/-- The rest of a tag up to its end, and what follows. Quotes hide the end. -/
def tagBody? : Option Char → List Char → Option (List Char × List Char)
  | _, [] => none
  | none, c :: cs =>
    if c = '>' then some ([], cs)
    else
      let quote := if c = '"' ∨ c = '\'' then some c else none
      (tagBody? quote cs).map fun p => (c :: p.1, p.2)
  | some q, c :: cs =>
    (tagBody? (if c = q then none else some q) cs).map fun p => (c :: p.1, p.2)

/-- The attributes of a tag, with so many steps allowed. No key may occur twice. -/
def attributesFrom? : Nat → List String → List Char → Option Attributes
  | 0, _, _ => none
  | fuel + 1, seen, cs =>
    match skipSpace cs with
    | [] => some []
    | first :: cs => do
      let key := String.ofList (first :: cs.takeWhile fun c => c != '=' && !isSpace c)
      match skipSpace (cs.dropWhile fun c => c != '=' && !isSpace c) with
      | '=' :: cs =>
        if key ∈ seen then none
        else match skipSpace cs with
        | quote :: cs =>
          if quote = '"' ∨ quote = '\'' then
            match cs.dropWhile (· ≠ quote) with
            | _ :: rest => do
              let value ← resolve? (cs.takeWhile (· ≠ quote))
              let more ← attributesFrom? fuel (key :: seen) rest
              pure ((key, String.ofList value) :: more)
            | [] => none
          else none
        | [] => none
      | _ => none

def tag? (body : List Char) : Option (String × Attributes) :=
  let tail := body.dropWhile fun c => !isSpace c
  (attributesFrom? (tail.length + 1) [] tail).map fun attributes =>
    (String.ofList (body.takeWhile fun c => !isSpace c), attributes)

def openEvent (body : List Char) : Event :=
  if body.getLast? = some '/' then
    (tag? body.dropLast).elim .malformed fun p => .leaf p.1 p.2
  else (tag? body).elim .malformed fun p => .opened p.1 p.2

/-- The name in a closing tag: blanks behind it do not count, unless there is nothing else. -/
def closingName (body : List Char) : String :=
  let trimmed := (body.reverse.dropWhile isSpace).reverse
  String.ofList (if trimmed = [] then body else trimmed)

def doctypeBody? : Nat → List Char → Option (List Char × List Char)
  | _, [] => none
  | depth, c :: cs =>
    if c = '>' then
      match depth with
      | 0 => some ([], cs)
      | depth + 1 => (doctypeBody? depth cs).map fun p => (c :: p.1, p.2)
    else (doctypeBody? (if c = '<' then depth + 1 else depth) cs).map fun p => (c :: p.1, p.2)

def dropWord? (word : String) (cs : List Char) : Option (List Char) :=
  let n := word.length
  if String.ofList ((cs.take n).map Char.toUpper) = word then some (cs.drop n) else none

def declaration? (cs : List Char) : Option (Event × List Char) :=
  match cs with
  | '-' :: '-' :: cs =>
    (Text.cutMark? ['-', '-', '>'] cs).map fun p => (.aside, p.2)
  | '[' :: _ => do
    let cs ← dropWord? "[CDATA[" cs
    let (body, rest) ← Text.cutMark? [']', ']', '>'] cs
    pure (.text (some (String.ofList body)), rest)
  | _ => do
    let cs ← dropWord? "DOCTYPE" cs
    let (body, rest) ← doctypeBody? 0 cs
    if body.all isSpace then none else pure (.aside, rest)

def instruction? (cs : List Char) : Option (Event × List Char) :=
  (Text.cutMark? ['?', '>'] cs).map fun p => (.aside, p.2)

def markup? (cs : List Char) : Option (Event × List Char) :=
  match cs with
  | [] => none
  | '!' :: cs => declaration? cs
  | '?' :: cs => instruction? cs
  | '/' :: cs => (tagBody? none cs).map fun p => (.closed (closingName p.1), p.2)
  | cs => (tagBody? none cs).map fun p => (openEvent p.1, p.2)

def eventsFrom : Nat → List Char → List Event
  | 0, _ => []
  | fuel + 1, cs =>
    match cs with
    | [] => []
    | '<' :: cs =>
      match markup? cs with
      | none => [.malformed]
      | some (e, rest) => e :: eventsFrom fuel rest
    | cs =>
      .text ((resolve? (cs.takeWhile (· ≠ '<'))).map String.ofList) ::
        eventsFrom fuel (cs.dropWhile (· ≠ '<'))

/-- The events of a document. A byte order mark before it does not count. -/
def events (s : String) : List Event :=
  let cs := match s.toList with
    | c :: cs => if c.toNat = 0xFEFF then cs else c :: cs
    | [] => []
  eventsFrom (cs.length + 1) cs

end Resilience.Xml
