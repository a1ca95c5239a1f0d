import Resilience.Json.Token
/-! # JSON trees

The structure of a text, before anything is kept of it: members in the order they are written,
repeated keys included. Tokens are taken one after another onto a stack of open containers.
-/
namespace Resilience.Json

inductive Tree where
  | null
  | bool (b : Bool)
  | numeral (n : Numeral)
  | string (s : Option String)
  | array (items : List Tree)
  | object (members : List (Option String × Tree))
deriving Inhabited

/-- An open container, its finished parts in reverse. -/
inductive Frame where
  | array (items : List Tree)
  /-- Members before the one whose key is pending. -/
  | object (members : List (Option String × Tree)) (key : Option String)

inductive Expectation where
  | value
  /-- A value, or the end of an array that has just been opened. -/
  | firstItem
  /-- A key, or the end of an object that has just been opened. -/
  | firstKey (members : List (Option String × Tree))
  | key (members : List (Option String × Tree))
  | colon
  /-- A comma or the end of the innermost container, which just took a value. -/
  | afterValue
  /-- Nothing: the document is complete. -/
  | nothing (result : Tree)

/-- The open containers, innermost first, and what may come next. -/
structure Builder where
  frames : List Frame
  expects : Expectation

def place (t : Tree) : List Frame → Builder
  | [] => ⟨[], .nothing t⟩
  | .array items :: frames => ⟨.array (t :: items) :: frames, .afterValue⟩
  | .object members key :: frames => ⟨.object ((key, t) :: members) none :: frames, .afterValue⟩

def beginValue (token : Token) (frames : List Frame) : Option Builder :=
  match token with
  | .null => some (place .null frames)
  | .bool b => some (place (.bool b) frames)
  | .numeral n => some (place (.numeral n) frames)
  | .string s => some (place (.string s) frames)
  | .openBracket => some ⟨.array [] :: frames, .firstItem⟩
  | .openBrace => some ⟨frames, .firstKey []⟩
  | _ => none

def Builder.step (b : Builder) (token : Token) : Option Builder :=
  match b.expects with
  | .value => beginValue token b.frames
  | .firstItem =>
    match token, b.frames with
    | .closeBracket, .array _ :: frames => some (place (.array []) frames)
    | _, _ => beginValue token b.frames
  | .firstKey members =>
    match token with
    | .closeBrace => some (place (.object members.reverse) b.frames)
    | .string s => some ⟨.object members s :: b.frames, .colon⟩
    | _ => none
  | .key members =>
    match token with
    | .string s => some ⟨.object members s :: b.frames, .colon⟩
    | _ => none
  | .colon =>
    match token with
    | .colon => some ⟨b.frames, .value⟩
    | _ => none
  | .afterValue =>
    match token, b.frames with
    | .comma, .array _ :: _ => some ⟨b.frames, .value⟩
    | .comma, .object members _ :: frames => some ⟨frames, .key members⟩
    | .closeBracket, .array items :: frames => some (place (.array items.reverse) frames)
    | .closeBrace, .object members _ :: frames => some (place (.object members.reverse) frames)
    | _, _ => none
  | .nothing _ => none

def Builder.run (b : Builder) : List Token → Option Builder
  | [] => some b
  | t :: ts => (b.step t).bind (·.run ts)

def Builder.result? (b : Builder) : Option Tree :=
  match b.expects with
  | .nothing t => some t
  | _ => none

def Tree.ofChars? (cs : List Char) : Option Tree := do
  let ts ← tokens cs
  let b ← Builder.run ⟨[], .value⟩ ts
  b.result?

end Resilience.Json
