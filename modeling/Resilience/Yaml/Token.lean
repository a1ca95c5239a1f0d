import Resilience.Text.Utf8
import Resilience.Yaml.Scalar
/-! # Tokens of a YAML text

The text is cut into tokens from left to right. Indentation opens and closes blocks, so it appears
as tokens too. A token that may turn out to be a key is remembered: when its colon comes, the mark
of the key is put in front of it.
-/
namespace Resilience.Yaml

inductive Token where
  | streamEnd
  | version (major minor : Nat)
  | tagDirective (handle lead : String)
  | documentStart
  | documentEnd
  | blockSequence
  | blockMapping
  | blockEnd
  | flowSequence
  | flowSequenceEnd
  | flowMapping
  | flowMappingEnd
  | blockEntry
  | flowEntry
  | key
  | value
  | alias (name : String)
  | anchor (name : String)
  | tag (handle suffix : String)
  | scalar (text : String) (plain : Bool)
  /-- The text cannot be read any further. -/
  | bad
deriving DecidableEq, Repr, Inhabited

structure KeyPlace where
  line : Nat
  column : Nat
  /-- How many tokens stand before it. -/
  before : Nat
  /-- Nothing but a key can stand there. -/
  required : Bool
deriving DecidableEq, Repr

namespace KeyPlace

/-- The key cannot reach as far as here: it has one line and at most 1024 characters. -/
def isStale (k : KeyPlace) (line column : Nat) : Bool :=
  k.line < line || k.column + 1024 < column

end KeyPlace

structure Reading where
  rest : List Spot
  /-- The tokens so far, the last one first. -/
  tokens : List Token := []
  /-- The columns of the open blocks, the innermost first. -/
  indents : List Nat := []
  /-- A key may begin here. -/
  keyAllowed : Bool := true
  /-- Where a key may have begun, inside the innermost flow. -/
  key : Option KeyPlace := none
  /-- The same for each flow around it, and for the blocks outside. -/
  outerKeys : List (Option KeyPlace) := []
deriving DecidableEq, Repr

namespace Reading

def inFlow (r : Reading) : Bool := !r.outerKeys.isEmpty

def column (r : Reading) : Nat :=
  match r.rest with
  | [] => 0
  | s :: _ => s.column

def line (r : Reading) : Nat :=
  match r.rest with
  | [] => 0
  | s :: _ => s.line

def emit (r : Reading) (t : Token) : Reading := { r with tokens := t :: r.tokens }

def skip (r : Reading) (n : Nat) : Reading := { r with rest := r.rest.drop n }

/-- The place of a key, unless it is too far away by now. A required key must not be. -/
def liveKey? (r : Reading) : Option KeyPlace → Option (Option KeyPlace)
  | none => some none
  | some k =>
    if k.isStale r.line r.column then (if k.required then none else some none) else some (some k)

def dropStale? (r : Reading) : Option Reading := do
  let key ← r.liveKey? r.key
  let outerKeys ← r.outerKeys.mapM r.liveKey?
  pure { r with key := key, outerKeys := outerKeys }

def forgetKey? (r : Reading) : Option Reading :=
  if r.key.any (·.required) then none else some { r with key := none }

def noteKey? (r : Reading) : Option Reading :=
  if !r.keyAllowed then some r
  else do
    let r ← r.forgetKey?
    let required := !r.inFlow && r.indents.head? == some r.column
    pure { r with key := some ⟨r.line, r.column, r.tokens.length, required⟩ }

def closeBlocks (column : Nat) : List Nat → List Token → List Nat × List Token
  | [], tokens => ([], tokens)
  | i :: is, tokens =>
    if column < i then closeBlocks column is (.blockEnd :: tokens) else (i :: is, tokens)

def unindent (r : Reading) (column : Nat) : Reading :=
  if r.inFlow then r
  else
    let (indents, tokens) := closeBlocks column r.indents r.tokens
    { r with indents := indents, tokens := tokens }

def unindentAll (r : Reading) : Reading :=
  if r.inFlow then r
  else { r with indents := [], tokens := r.indents.map (fun _ => Token.blockEnd) ++ r.tokens }

def isDeeper (r : Reading) (column : Nat) : Bool :=
  !r.inFlow && r.indents.head?.all (· < column)

/-- Opens a block at the front, if it stands further right than the one around it. -/
def indent (r : Reading) (t : Token) : Reading :=
  if r.isDeeper r.column then { r with indents := r.column :: r.indents, tokens := t :: r.tokens }
  else r

/-- Marks the token at a place as the beginning of a key, and opens a mapping if it stands further
right than the block around it. -/
def markKey (r : Reading) (k : KeyPlace) : Reading :=
  let later := r.tokens.take (r.tokens.length - k.before)
  let earlier := r.tokens.drop (r.tokens.length - k.before)
  if r.isDeeper k.column then
    { r with tokens := later ++ .key :: .blockMapping :: earlier,
             indents := k.column :: r.indents }
  else { r with tokens := later ++ .key :: earlier }

/-- What stands between two tokens: blanks, comments and ends of lines. Behind a line's end a key
is allowed again, outside of flows. -/
def skipGap (inFlow : Bool) (keyAllowed inComment : Bool) : List Spot → Bool × List Spot
  | [] => (keyAllowed, [])
  | s :: rest =>
    let c := s.char
    if isBreak c then skipGap inFlow (keyAllowed || !inFlow) false rest
    else if inComment && c != endMark then skipGap inFlow keyAllowed true rest
    else if c = ' ' ∨ (c = '\t' ∧ (inFlow ∨ !keyAllowed)) ∨
        (c = '\ufeff' ∧ s.line = 0 ∧ s.column = 0) then
      skipGap inFlow keyAllowed false rest
    else if c = '#' then skipGap inFlow keyAllowed true rest
    else (keyAllowed, s :: rest)

def toToken (r : Reading) : Reading :=
  let (keyAllowed, rest) := skipGap r.inFlow r.keyAllowed false r.rest
  { r with keyAllowed := keyAllowed, rest := rest }

end Reading

def versionNumber? (spots : List Spot) : Option (Nat × List Spot) :=
  let (digits, rest) := spanChars (fun c => (Text.digit? 10 c).isSome) spots
  if digits = [] ∨ 9 < digits.length then none
  else some (digits.foldl (fun n c => n * 10 + (c.toNat - 48)) 0, rest)

/-- The handle of a tag: an exclamation mark, or a name between two. In a directive a name has to
end in one. -/
def tagHandle? (inDirective : Bool) (spots : List Spot) : Option (List Char × List Spot) :=
  if front spots ≠ '!' then none
  else
    let (name, rest) := spanChars isNameChar (spots.drop 1)
    if front rest = '!' then some ('!' :: name ++ ['!'], rest.drop 1)
    else if inDirective ∧ name ≠ [] then none
    else some ('!' :: name, rest)

def isTagChar (full : Bool) (c : Char) : Bool :=
  isNameChar c || c ∈ ";/?:@&=+$.%!~*'()".toList || (full && c ∈ [',', '[', ']'])

def byteCount? (b : Nat) : Option Nat :=
  if b < 0x80 then some 1 else if b < 0xC0 then none else if b < 0xE0 then some 2
  else if b < 0xF0 then some 3 else if b < 0xF8 then some 4 else none

/-- The bytes of a tag's text, a byte being written as a percent sign and two digits if need be.
So many bytes are missing to the last character. -/
def tagBytes? (missing : Nat) : List Char → Option (List UInt8)
  | [] => if missing = 0 then some [] else none
  | '%' :: a :: b :: cs => do
    let n := (← Text.digit? 16 a) * 16 + (← Text.digit? 16 b)
    let missing ←
      if missing = 0 then (byteCount? n).map (· - 1)
      else if 0x80 ≤ n ∧ n < 0xC0 then some (missing - 1) else none
    pure (UInt8.ofNat n :: (← tagBytes? missing cs))
  | c :: cs =>
    if missing ≠ 0 ∨ c = '%' then none
    else do pure (UInt8.ofNat c.toNat :: (← tagBytes? 0 cs))

def tagText? (full : Bool) (spots : List Spot) : Option (String × List Spot) := do
  let (cs, rest) := spanChars (isTagChar full) spots
  let bytes ← tagBytes? 0 cs
  pure (String.ofList (Text.decodeWith ['\ufffd'] bytes), rest)

def nonempty? (p : String × List Spot) : Option (String × List Spot) :=
  if p.1 = "" then none else some p

def fullTag? (spots : List Spot) : Option (Token × List Spot) := do
  let (suffix, rest) ← (tagText? true (spots.drop 1)).bind nonempty?
  if front rest = '>' then pure (.tag "" suffix, rest.drop 1) else none

/-- A tag by its handle. What looks like a handle and does not end in an exclamation mark belongs
to the text of a tag of the handle `!`; an exclamation mark alone is a tag too. -/
def shortTag? (spots : List Spot) : Option (Token × List Spot) := do
  let (handle, rest) ← tagHandle? false spots
  if 1 < handle.length ∧ handle.getLast? = some '!' then
    let (suffix, rest) ← (tagText? false rest).bind nonempty?
    pure (.tag (String.ofList handle) suffix, rest)
  else
    let (more, rest) ← tagText? false rest
    let suffix := String.ofList (handle.drop 1) ++ more
    pure (if suffix = "" then .tag "" "!" else .tag "!" suffix, rest)

/-- A tag. A gap has to follow it, or, in a flow, a comma. -/
def tag? (inFlow : Bool) (spots : List Spot) : Option (Token × List Spot) := do
  let (t, rest) ← if second spots = '<' then fullTag? (spots.drop 1) else shortTag? spots
  if isGap (front rest) || (inFlow && front rest == ',') then pure (t, rest) else none

def anchorName? (spots : List Spot) : Option (String × List Spot) :=
  let (name, rest) := spanChars isNameChar spots
  if name = [] then none
  else if isGap (front rest) || front rest ∈ ['?', ':', ',', ']', '}', '%', '@', '\x60'] then
    some (String.ofList name, rest)
  else none

def directive? (spots : List Spot) : Option (Token × List Spot) := do
  let (name, rest) := spanChars isNameChar spots
  if name = [] ∨ !isGap (front rest) then none
  else
    let (_, rest) := spanChars isBlank rest
    if name = ['Y', 'A', 'M', 'L'] then
      let (major, rest) ← versionNumber? rest
      if front rest ≠ '.' then none
      else
        let (minor, rest) ← versionNumber? (rest.drop 1)
        pure (.version major minor, ← restOfLine? rest)
    else if name = ['T', 'A', 'G'] then
      let (handle, rest) ← tagHandle? true rest
      if !isBlank (front rest) then none
      else
        let (_, rest) := spanChars isBlank rest
        let (lead, rest) ← (tagText? true rest).bind nonempty?
        if !isGap (front rest) then none
        else pure (.tagDirective (String.ofList handle) lead, ← restOfLine? rest)
    else none

namespace Reading

def finish? (r : Reading) : Option Reading := do
  let r ← r.unindentAll.forgetKey?
  pure { r.emit .streamEnd with rest := [] }

def documentMark? (r : Reading) (t : Token) : Option Reading := do
  let r ← r.unindentAll.forgetKey?
  pure (({ r with keyAllowed := false }.emit t).skip 3)

def directive? (r : Reading) : Option Reading := do
  let r ← r.unindentAll.forgetKey?
  let (t, rest) ← Yaml.directive? (r.rest.drop 1)
  pure { r.emit t with rest := rest, keyAllowed := false }

def openFlow? (r : Reading) (t : Token) : Option Reading := do
  let r ← r.noteKey?
  pure (({ r with key := none, outerKeys := r.key :: r.outerKeys, keyAllowed := true }.emit t).skip 1)

def closeFlow? (r : Reading) (t : Token) : Option Reading := do
  let r ← r.forgetKey?
  let r := match r.outerKeys with
    | [] => r
    | k :: ks => { r with key := k, outerKeys := ks }
  pure (({ r with keyAllowed := false }.emit t).skip 1)

def flowEntry? (r : Reading) : Option Reading := do
  let r ← r.forgetKey?
  pure (({ r with keyAllowed := true }.emit .flowEntry).skip 1)

def blockEntry? (r : Reading) : Option Reading :=
  if !r.inFlow && !r.keyAllowed then none
  else do
    let r ← (r.indent .blockSequence).forgetKey?
    pure (({ r with keyAllowed := true }.emit .blockEntry).skip 1)

def keyMark? (r : Reading) : Option Reading :=
  if !r.inFlow && !r.keyAllowed then none
  else do
    let r ← (r.indent .blockMapping).forgetKey?
    pure (({ r with keyAllowed := !r.inFlow }.emit .key).skip 1)

def valueMark? (r : Reading) : Option Reading :=
  match r.key with
  | some k => some (({ r.markKey k with key := none, keyAllowed := false }.emit .value).skip 1)
  | none =>
    if !r.inFlow && !r.keyAllowed then none
    else
      some (({ r.indent .blockMapping with keyAllowed := !r.inFlow }.emit .value).skip 1)

def keyPart? (r : Reading) (part : Option (Token × List Spot)) : Option Reading := do
  let r ← r.noteKey?
  let (t, rest) ← part
  pure { r.emit t with rest := rest, keyAllowed := false }

def block? (r : Reading) (literal : Bool) : Option Reading := do
  let r ← r.forgetKey?
  let (text, rest) ← Yaml.block? literal r.indents.head? (r.rest.drop 1)
  pure { r.emit (.scalar (String.ofList text) false) with rest := rest, keyAllowed := true }

def plain? (r : Reading) : Option Reading := do
  let r ← r.noteKey?
  let p ← plainFrom r.inFlow (r.indents.head?.elim 0 (· + 1)) [] none r.rest
  pure { r.emit (.scalar (String.ofList p.text) true) with
    rest := p.rest, keyAllowed := p.lineEnded }

def quoted (part : Option (List Char × List Spot)) : Option (Token × List Spot) :=
  part.map fun (text, rest) => (.scalar (String.ofList text) false, rest)

def isIndicator (c : Char) : Bool := c ∈ "-?:,[]\x7b\x7d#&*!|>'\"%@\x60".toList

def token? (r : Reading) : Option Reading :=
  let c := front r.rest
  let gapFollows := isGap (second r.rest)
  let atStart := r.column == 0
  if c = endMark then r.finish?
  else if atStart && c == '%' then r.directive?
  else if atMark '-' r.rest then r.documentMark? .documentStart
  else if atMark '.' r.rest then r.documentMark? .documentEnd
  else if c = '[' then r.openFlow? .flowSequence
  else if c = '{' then r.openFlow? .flowMapping
  else if c = ']' then r.closeFlow? .flowSequenceEnd
  else if c = '}' then r.closeFlow? .flowMappingEnd
  else if c = ',' then r.flowEntry?
  else if c = '-' ∧ gapFollows then r.blockEntry?
  else if c = '?' ∧ (r.inFlow ∨ gapFollows) then r.keyMark?
  else if c = ':' ∧ (r.inFlow ∨ gapFollows) then r.valueMark?
  else if c = '*' then
    r.keyPart? ((anchorName? (r.rest.drop 1)).map fun (n, rest) => (.alias n, rest))
  else if c = '&' then
    r.keyPart? ((anchorName? (r.rest.drop 1)).map fun (n, rest) => (.anchor n, rest))
  else if c = '!' then r.keyPart? (tag? r.inFlow r.rest)
  else if c = '|' ∧ !r.inFlow then r.block? true
  else if c = '>' ∧ !r.inFlow then r.block? false
  else if c = '\'' then r.keyPart? (quoted (singleFrom [] none (r.rest.drop 1)))
  else if c = '"' then r.keyPart? (quoted (doubleFrom .words [] none (r.rest.drop 1)))
  else if c = '-' ∨ c = '?' ∨ c = ':' ∨ (!isIndicator c && !isBlank c) then r.plain?
  else none

def next? (r : Reading) : Option Reading := do
  let r ← r.toToken.dropStale?
  (r.unindent r.column).token?

/-- The tokens of a text that cannot be read any further. A token that might have been a key is
not known to be anything yet, so it is lost with all that follows it. -/
def broken (r : Reading) : List Token :=
  let undecided := (r.key :: r.outerKeys).filterMap (·.map KeyPlace.before)
  (r.tokens.reverse.take (undecided.foldl min r.tokens.length)) ++ [.bad]

def tokensFrom : Nat → Reading → List Token
  | 0, r => r.broken
  | fuel + 1, r =>
    if r.rest = [] then r.tokens.reverse
    else match r.dropStale? with
      | none => r.broken
      | some r =>
        match r.next? with
        | some r => tokensFrom fuel r
        | none => r.broken

end Reading

def tokens (s : String) : List Token :=
  match spots? s with
  | none => [.bad]
  | some spots => Reading.tokensFrom (spots.length + 1) { rest := spots }

end Resilience.Yaml
