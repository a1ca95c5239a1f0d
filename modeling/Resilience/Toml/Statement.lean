import Resilience.Toml.Scalar
/-! # TOML statements

A document is a list of statements: headers of tables and assignments to dotted keys. Values
nest at most eighty deep.
-/
namespace Resilience.Toml

/-- A value as it is written: inline tables still hold dotted keys. -/
inductive Written where
  | value (v : Toml)
  | array (items : List Written)
  | inlineTable (entries : List (List String × Written))
deriving Inhabited

inductive Statement where
  | header (path : List String)
  | arrayHeader (path : List String)
  | assign (path : List String) (value : Written)

def maxDepth : Nat := 80

def skipBlank (cs : List Char) : List Char := cs.dropWhile fun c => c == ' ' || c == '\t'

/-- Control characters other than the tab. -/
def isControl (c : Char) : Bool := (c.toNat < 32 && c != '\t') || c.toNat == 127

def skipComment? (cs : List Char) : Option (List Char) :=
  match cs with
  | '#' :: cs => some (cs.dropWhile fun c => !isControl c)
  | cs => some cs

def lineEnd? : List Char → Option (List Char)
  | '\n' :: cs => some cs
  | '\r' :: '\n' :: cs => some cs
  | _ => none

def finishLine? (cs : List Char) : Option (List Char) := do
  let cs ← skipComment? (skipBlank cs)
  match cs with
  | [] => pure []
  | cs => lineEnd? cs

def skipLines : Nat → List Char → List Char
  | 0, cs => cs
  | fuel + 1, cs =>
    match skipComment? (skipBlank cs) with
    | none => cs
    | some cs =>
      match lineEnd? cs with
      | some cs => skipLines fuel cs
      | none => cs

def escapedCode? (digits : Nat) (cs : List Char) : Option (Char × List Char) :=
  let body := cs.take digits
  if body.length < digits then none else do
    let ds ← body.mapM (Text.digit? 16)
    let n := Decimal.ofDigits 16 ds
    if n.isValidChar then pure (Char.ofNat n, cs.drop digits) else none

def escape? : List Char → Option (Char × List Char)
  | 'b' :: cs => some (Char.ofNat 8, cs)
  | 't' :: cs => some ('\t', cs)
  | 'n' :: cs => some ('\n', cs)
  | 'f' :: cs => some (Char.ofNat 12, cs)
  | 'r' :: cs => some ('\r', cs)
  | 'e' :: cs => some (Char.ofNat 27, cs)
  | '"' :: cs => some ('"', cs)
  | '\\' :: cs => some ('\\', cs)
  | 'x' :: cs => escapedCode? 2 cs
  | 'u' :: cs => escapedCode? 4 cs
  | 'U' :: cs => escapedCode? 8 cs
  | _ => none

/-- A quoted text up to its closing quote; `acc` is in reverse. -/
def basicBody? : Nat → List Char → List Char → Option (List Char × List Char)
  | 0, _, _ => none
  | fuel + 1, acc, cs =>
    match cs with
    | [] => none
    | '"' :: cs => some (acc.reverse, cs)
    | '\\' :: cs => do
      let (c, cs) ← escape? cs
      basicBody? fuel (c :: acc) cs
    | c :: cs => if isControl c then none else basicBody? fuel (c :: acc) cs

def literalBody? (cs : List Char) : Option (List Char × List Char) :=
  let body := cs.takeWhile fun c => c != '\'' && !isControl c
  match cs.dropWhile fun c => c != '\'' && !isControl c with
  | '\'' :: rest => some (body, rest)
  | _ => none

def countLeading (q : Char) (cs : List Char) : Nat := (cs.takeWhile (· == q)).length

/-- Behind a backslash that ends a line: blanks and line ends up to the next text. -/
def continueLine? (cs : List Char) : Option (List Char) :=
  match lineEnd? (skipBlank cs) with
  | none => none
  | some cs => some (cs.dropWhile fun c => c == ' ' || c == '\t' || c == '\n' || c == '\r')

/-- A text over several lines up to its three closing quotes, of which two more may belong to the
text. -/
def multilineBody? (q : Char) : Nat → List Char → List Char → Option (List Char × List Char)
  | 0, _, _ => none
  | fuel + 1, acc, cs =>
    let quotes := countLeading q cs
    if 3 ≤ quotes then
      if 5 < quotes then none
      else some (acc.reverse ++ List.replicate (quotes - 3) q, cs.drop quotes)
    else
      match cs with
      | [] => none
      | '\n' :: cs => multilineBody? q fuel ('\n' :: acc) cs
      | '\r' :: '\n' :: cs => multilineBody? q fuel ('\n' :: acc) cs
      | c :: rest =>
        if c = '\\' ∧ q = '"' then
          match continueLine? rest with
          | some rest => multilineBody? q fuel acc rest
          | none => do
            let (c, rest) ← escape? rest
            multilineBody? q fuel (c :: acc) rest
        else if isControl c then none
        else multilineBody? q fuel (c :: acc) rest

def dropFirstLineEnd (cs : List Char) : List Char := (lineEnd? cs).getD cs

def quoted? (cs : List Char) : Option (List Char × List Char) :=
  match cs with
  | '"' :: '"' :: '"' :: cs => multilineBody? '"' (cs.length + 1) [] (dropFirstLineEnd cs)
  | '\'' :: '\'' :: '\'' :: cs => multilineBody? '\'' (cs.length + 1) [] (dropFirstLineEnd cs)
  | '"' :: cs => basicBody? (cs.length + 1) [] cs
  | '\'' :: cs => literalBody? cs
  | _ => none

def isBareKey (c : Char) : Bool := c.isAlphanum || c == '_' || c == '-'

def simpleKey? (cs : List Char) : Option (String × List Char) :=
  match cs with
  | '"' :: '"' :: '"' :: _ => none
  | '\'' :: '\'' :: '\'' :: _ => none
  | '"' :: _ | '\'' :: _ => (quoted? cs).map fun (k, cs) => (String.ofList k, cs)
  | cs =>
    match cs.takeWhile isBareKey with
    | [] => none
    | k => some (String.ofList k, cs.dropWhile isBareKey)

/-- A dotted key, blanks allowed around the dots and behind it. -/
def key? : Nat → List Char → Option (List String × List Char)
  | 0, _ => none
  | fuel + 1, cs => do
    let (k, cs) ← simpleKey? cs
    match skipBlank cs with
    | '.' :: cs =>
      let (ks, cs) ← key? fuel (skipBlank cs)
      pure (k :: ks, cs)
    | cs => pure ([k], cs)

def endsScalar (c : Char) : Bool :=
  c == ' ' || c == '\t' || c == '\n' || c == '\r' || c == ',' || c == ']' || c == '}' || c == '#'

/-- An unquoted value; one blank may stand between a date and a time. -/
def unquoted? (cs : List Char) : Option (Toml × List Char) :=
  let body := cs.takeWhile fun c => !endsScalar c
  let rest := cs.dropWhile fun c => !endsScalar c
  let withTime := match rest with
    | ' ' :: c :: _ => date? body == some [] && c.isDigit
    | _ => false
  if withTime then
    let tail := rest.drop 1
    (scalar? (body ++ ' ' :: tail.takeWhile fun c => !endsScalar c)).map
      fun v => (v, tail.dropWhile fun c => !endsScalar c)
  else (scalar? body).map fun v => (v, rest)

mutual

def written? (fuel depth : Nat) (cs : List Char) : Option (Written × List Char) :=
  match fuel with
  | 0 => none
  | fuel + 1 =>
    match cs with
    | '[' :: cs =>
      match depth with
      | 0 => none
      | depth + 1 => (items? fuel depth (skipLines cs.length cs)).map fun (ws, cs) => (.array ws, cs)
    | '\x7b' :: cs =>
      match depth with
      | 0 => none
      | depth + 1 =>
        (inlineBody? fuel depth (skipLines cs.length cs)).map fun (es, cs) => (.inlineTable es, cs)
    | '"' :: _ | '\'' :: _ =>
      (quoted? cs).map fun (s, cs) => (.value (.string (String.ofList s)), cs)
    | cs => (unquoted? cs).map fun (v, cs) => (.value v, cs)

/-- The items of an array, up to its end; a comma may stand behind the last one. -/
def items? (fuel depth : Nat) (cs : List Char) : Option (List Written × List Char) :=
  match fuel with
  | 0 => none
  | fuel + 1 =>
    match cs with
    | ']' :: cs => some ([], cs)
    | cs => do
      let (w, cs) ← written? fuel depth cs
      match skipLines cs.length cs with
      | ',' :: cs =>
        let (ws, cs) ← items? fuel depth (skipLines cs.length cs)
        pure (w :: ws, cs)
      | ']' :: cs => pure ([w], cs)
      | _ => none

def inlineBody? (fuel depth : Nat) (cs : List Char) :
    Option (List (List String × Written) × List Char) :=
  match fuel with
  | 0 => none
  | fuel + 1 =>
    match cs with
    | '\x7d' :: cs => some ([], cs)
    | cs => do
      let (path, cs) ← key? (cs.length + 1) cs
      match cs with
      | '=' :: cs =>
        let (w, cs) ← written? fuel depth (skipBlank cs)
        match skipLines cs.length cs with
        | ',' :: cs =>
          let (es, cs) ← inlineBody? fuel depth (skipLines cs.length cs)
          pure ((path, w) :: es, cs)
        | '\x7d' :: cs => pure ([(path, w)], cs)
        | _ => none
      | _ => none

end

def statement? (cs : List Char) : Option (Statement × List Char) :=
  match cs with
  | '[' :: '[' :: cs => do
    let (path, cs) ← key? (cs.length + 1) (skipBlank cs)
    match cs with
    | ']' :: ']' :: cs => pure (.arrayHeader path, cs)
    | _ => none
  | '[' :: cs => do
    let (path, cs) ← key? (cs.length + 1) (skipBlank cs)
    match cs with
    | ']' :: cs => pure (.header path, cs)
    | _ => none
  | cs => do
    let (path, cs) ← key? (cs.length + 1) cs
    match cs with
    | '=' :: cs =>
      let (w, cs) ← written? (cs.length + 1) maxDepth (skipBlank cs)
      pure (.assign path w, cs)
    | _ => none

def statementsFrom? : Nat → List Char → Option (List Statement)
  | 0, _ => none
  | fuel + 1, cs =>
    match skipLines cs.length cs with
    | [] => some []
    | cs => do
      let (s, cs) ← statement? cs
      let cs ← finishLine? cs
      let ss ← statementsFrom? fuel cs
      pure (s :: ss)

/-- The statements of a document; a byte order mark before it is passed over. -/
def statements? (s : String) : Option (List Statement) :=
  let cs := match s.toList with
    | c :: cs => if c.toNat = 0xFEFF then cs else c :: cs
    | [] => []
  statementsFrom? (cs.length + 1) cs

end Resilience.Toml
