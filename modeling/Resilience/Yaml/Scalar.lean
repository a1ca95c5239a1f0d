import Resilience.Text.Char
import Resilience.Yaml.Spot
/-! # Scalars in a YAML text

A scalar is written plainly, in quotes or as a block of lines. Lines of one scalar are folded: a
single break between words counts as a space, further ones as themselves.
-/
namespace Resilience.Yaml

structure Gap where
  blanks : List Char := []
  /-- The gap reaches over the end of a line. -/
  broken : Bool := false
  firstBreak : Option Char := none
  moreBreaks : List Char := []
deriving DecidableEq, Repr

namespace Gap

/-- The gap with one more blank; at the start of a line blanks do not count. -/
def addBlank (g : Gap) (c : Char) : Gap :=
  if g.broken then g else { g with blanks := g.blanks ++ [c] }

def addBreak (g : Gap) (c : Char) : Gap :=
  if g.broken then { g with moreBreaks := g.moreBreaks ++ [c] }
  else { broken := true, firstBreak := some c }

/-- A line end that was taken back leaves only what follows it. -/
def joined : Gap := { broken := true }

def text (g : Gap) : List Char :=
  if !g.broken then g.blanks
  else match g.firstBreak with
    | some '\n' => if g.moreBreaks = [] then [' '] else g.moreBreaks
    | some c => c :: g.moreBreaks
    | none => g.moreBreaks

end Gap

/-- The characters so far, the last one first, continued behind a gap. -/
def behindGap (back : List Char) : Option Gap → List Char
  | none => back
  | some g => g.text.reverse ++ back

def isFlowMark (c : Char) : Bool := c == ',' || c == '[' || c == ']' || c == '{' || c == '}'

structure Plain where
  text : List Char
  lineEnded : Bool
  rest : List Spot

def Plain.ending (back : List Char) (gap : Option Gap) (rest : List Spot) : Plain :=
  ⟨back.reverse, gap.any (·.broken), rest⟩

/-- A plain scalar, of which the characters so far are known. It ends at a comment, at a colon
before a gap, at a flow mark in a flow, or on a line that is not indented as far as `margin`. -/
def plainFrom (inFlow : Bool) (margin : Nat) (back : List Char) (gap : Option Gap) :
    List Spot → Option Plain
  | [] => some (.ending back gap [])
  | s :: rest =>
    let c := s.char
    let ended := some (Plain.ending back gap (s :: rest))
    if isBlank c then
      let g := gap.getD {}
      if g.broken && s.column < margin && c == '\t' then none
      else plainFrom inFlow margin back (some (g.addBlank c)) rest
    else if isBreak c then plainFrom inFlow margin back (some ((gap.getD {}).addBreak c)) rest
    else if c = endMark then ended
    else if gap.isSome &&
        ((!inFlow && s.column < margin) || c == '#' || atDocumentMark (s :: rest)) then ended
    else if inFlow && c == ':' && (front rest == '?' || isFlowMark (front rest)) then none
    else if (c == ':' && isGap (front rest)) || (inFlow && isFlowMark c) then ended
    else plainFrom inFlow margin (c :: behindGap back gap) none rest

def escaped? : Char → Option Char
  | '0' => some '\x00' | 'a' => some '\x07' | 'b' => some '\x08' | 't' => some '\t'
  | '\t' => some '\t' | 'n' => some '\n' | 'v' => some '\x0b' | 'f' => some '\x0c'
  | 'r' => some '\r' | 'e' => some '\x1b' | ' ' => some ' ' | '"' => some '"'
  | '/' => some '/' | '\\' => some '\\' | 'N' => some '\u0085' | '_' => some '\u00a0'
  | 'L' => some '\u2028' | 'P' => some '\u2029' | _ => none

/-- How many digits follow a letter behind a backslash. -/
def escapeWidth? : Char → Option Nat
  | 'x' => some 2 | 'u' => some 4 | 'U' => some 8 | _ => none

inductive QuotedPart where
  | words
  | escape
  /-- A code point of which so many digits are still to come. -/
  | digits (left value : Nat)
deriving DecidableEq, Repr

/-- The scalar in single quotes from behind its first quote: two quotes stand for one. -/
def singleFrom (back : List Char) (gap : Option Gap) : List Spot → Option (List Char × List Spot)
  | [] => none
  | s :: rest =>
    let c := s.char
    if isBlank c then singleFrom back (some ((gap.getD {}).addBlank c)) rest
    else if isBreak c then singleFrom back (some ((gap.getD {}).addBreak c)) rest
    else if c = endMark ∨ atDocumentMark (s :: rest) then none
    else
      let back := behindGap back gap
      if c = '\'' then
        match rest with
        | t :: rest' =>
          if t.char = '\'' then singleFrom ('\'' :: back) none rest' else some (back.reverse, rest)
        | [] => some (back.reverse, rest)
      else singleFrom (c :: back) none rest

def doubleFrom (part : QuotedPart) (back : List Char) (gap : Option Gap) :
    List Spot → Option (List Char × List Spot)
  | [] => none
  | s :: rest =>
    let c := s.char
    match part with
    | .digits left value =>
      match Text.digit? 16 c with
      | none => none
      | some d =>
        let value := value * 16 + d
        if left ≠ 1 then doubleFrom (.digits (left - 1) value) back none rest
        else if value.isValidChar then doubleFrom .words (Char.ofNat value :: back) none rest
        else none
    | .escape =>
      if isBreak c then doubleFrom .words back (some .joined) rest
      else match escaped? c, escapeWidth? c with
        | some e, _ => doubleFrom .words (e :: back) none rest
        | none, some width => doubleFrom (.digits width 0) back none rest
        | none, none => none
    | .words =>
      if isBlank c then doubleFrom .words back (some ((gap.getD {}).addBlank c)) rest
      else if isBreak c then doubleFrom .words back (some ((gap.getD {}).addBreak c)) rest
      else if c = endMark ∨ atDocumentMark (s :: rest) then none
      else
        let back := behindGap back gap
        if c = '"' then some (back.reverse, rest)
        else if c = '\\' then doubleFrom .escape back none rest
        else doubleFrom .words (c :: back) none rest

inductive Chomp where
  | strip
  | clip
  | keep
deriving DecidableEq, Repr

structure BlockHeader where
  chomp : Chomp := .clip
  increment : Option Nat := none
deriving DecidableEq, Repr

def chomp? : Char → Option Chomp
  | '+' => some .keep
  | '-' => some .strip
  | _ => none

def increment? (c : Char) : Option Nat := Text.digit? 10 c

def blockSigns (spots : List Spot) : BlockHeader × List Spot :=
  match chomp? (front spots) with
  | some chomp =>
    match increment? (second spots) with
    | some n => (⟨chomp, some n⟩, spots.drop 2)
    | none => (⟨chomp, none⟩, spots.drop 1)
  | none =>
    match increment? (front spots) with
    | some n =>
      match chomp? (second spots) with
      | some chomp => (⟨chomp, some n⟩, spots.drop 2)
      | none => (⟨.clip, some n⟩, spots.drop 1)
    | none => ({}, spots)

def restOfLine? (spots : List Spot) : Option (List Spot) :=
  let (_, spots) := spanChars isBlank spots
  let (_, spots) := if front spots = '#' then spanChars (!isLineEnd ·) spots else ([], spots)
  if isBreak (front spots) then some (spots.drop 1)
  else if front spots = endMark then some spots
  else none

def blockHeader? (spots : List Spot) : Option (BlockHeader × List Spot) := do
  let (header, spots) := blockSigns spots
  if header.increment = some 0 then none
  else pure (header, ← restOfLine? spots)

/-- The empty lines in front of a block: how far the longest of them reaches, their ends, and what
follows. A tab may not stand in the margin. -/
def emptyLines? (margin : Option Nat) (most : Nat) (breaks : List Char) :
    List Spot → Option (Nat × List Char × List Spot)
  | [] => some (most, breaks, [])
  | s :: rest =>
    let inside := margin.all (s.column < ·)
    if inside && s.char == ' ' then emptyLines? margin most breaks rest
    else
      let most := max most s.column
      if inside && s.char == '\t' then none
      else if isBreak s.char then emptyLines? margin most (breaks ++ [s.char]) rest
      else some (most, breaks, s :: rest)

structure Block where
  /-- The characters, the last one first. -/
  back : List Char := []
  /-- The end of the last line. -/
  lineEnd : Option Char := none
  /-- The ends of the empty lines behind it. -/
  breaks : List Char := []
  /-- The last line begins with a blank. -/
  blankStart : Bool := false
deriving DecidableEq, Repr

namespace Block

/-- The block before a line that begins with this character. In a folded block the end of a line
between two that begin with no blank counts as a space. -/
def openLine (b : Block) (literal : Bool) (c : Char) : Block :=
  let folds := !literal && b.lineEnd == some '\n' && !b.blankStart && !isBlank c
  let lead := if folds then (if b.breaks = [] then [' '] else []) else b.lineEnd.toList
  { back := b.breaks.reverse ++ lead.reverse ++ b.back, blankStart := isBlank c }

def text (b : Block) (chomp : Chomp) : List Char :=
  b.back.reverse ++
    match chomp with
    | .strip => []
    | .clip => b.lineEnd.toList
    | .keep => b.lineEnd.toList ++ b.breaks

end Block

def blockFrom (literal : Bool) (margin : Nat) (inLine : Bool) (b : Block) :
    List Spot → Option (Block × List Spot)
  | [] => some (b, [])
  | s :: rest =>
    let c := s.char
    if inLine then
      if isBreak c then blockFrom literal margin false { b with lineEnd := some c } rest
      else if c = endMark then some (b, s :: rest)
      else blockFrom literal margin true { b with back := c :: b.back } rest
    else if s.column < margin && c == ' ' then blockFrom literal margin false b rest
    else if s.column < margin && c == '\t' then none
    else if isBreak c then blockFrom literal margin false { b with breaks := b.breaks ++ [c] } rest
    else if s.column = margin ∧ c ≠ endMark then
      let b := b.openLine literal c
      blockFrom literal margin true { b with back := c :: b.back } rest
    else some (b, s :: rest)

def block? (literal : Bool) (indent : Option Nat) (spots : List Spot) :
    Option (List Char × List Spot) := do
  let (header, spots) ← blockHeader? spots
  let given := header.increment.map (indent.getD 0 + ·)
  let (most, breaks, spots) ← emptyLines? given 0 [] spots
  let margin := given.getD (max most (max (indent.elim 0 (· + 1)) 1))
  let (b, spots) ← blockFrom literal margin false { breaks := breaks } spots
  pure (b.text header.chomp, spots)

end Resilience.Yaml
