import Resilience.Dict
import Resilience.Yaml.Token
/-! # Documents of a YAML text

A document is a tree of scalars, sequences and mappings. A node may carry an anchor, and an alias
stands for the node that carries it. The tree is built from the tokens by descent; a text that
cannot be read ends in the document that would have needed the rest of it.
-/
namespace Resilience.Yaml

inductive Node where
  | scalar (tag : Option String) (text : String) (plain : Bool)
  | sequence (tag : Option String) (items : List Node)
  | mapping (tag : Option String) (pairs : List (Node × Node))
  /-- The node of an anchor, which is known by a number. -/
  | alias (anchor : Nat)
deriving Inhabited

structure Document where
  root : Node
  /-- The order of the node behind each anchor's number. -/
  serials : List (Nat × Nat)
  /-- The nodes with anchors, by their order. -/
  nodes : List (Nat × Node)
  /-- How many parts the document has, counting both ends of a collection. -/
  size : Nat

structure Building where
  tokens : List Token
  /-- What the handles of tags stand for. -/
  handles : List (String × String)
  /-- The number of each anchor. -/
  anchors : List (String × Nat) := []
  serials : List (Nat × Nat) := []
  nodes : List (Nat × Node) := []
  size : Nat := 0

abbrev Build := StateT Building Option

namespace Build

def peek : Build Token := do
  match (← get).tokens with
  | [] | .bad :: _ => failure
  | t :: _ => pure t

def drop : Build Unit := modify fun b => { b with tokens := b.tokens.tail }

def count (n : Nat) : Build Unit := modify fun b => { b with size := b.size + n }

def tokensLeft : Build Nat := do return (← get).tokens.length

def absent : Build Node := do
  count 1
  pure (.scalar none "" true)

def unlessAt (ends : List Token) (item : Build Node) : Build Node := do
  if (← peek) ∈ ends then absent else item

/-- Gives an anchor the next number, which is how many anchors have different names so far, and
notes that the node that begins here carries it. -/
def bind (anchor : Option String) : Build (Option Nat) := fun b =>
  match anchor with
  | none => some (none, b)
  | some name =>
    let number := b.anchors.length
    let serial := b.serials.length
    let others := Dict.erase b.anchors name
    some (some serial, { b with anchors := (name, number) :: others,
                                serials := (number, serial) :: b.serials })

def settle (serial : Option Nat) (n : Node) : Build Node := fun b =>
  match serial with
  | none => some (n, b)
  | some serial => some (n, { b with nodes := (serial, n) :: b.nodes })

def follow (name : String) : Build Node := do
  match Dict.find? (← get).anchors name with
  | none => failure
  | some number =>
    count 1
    pure (.alias number)

def expandTag (handle suffix : String) : Build String := do
  if handle = "" then pure suffix
  else match Dict.find? (← get).handles handle with
    | none => failure
    | some lead => pure (lead ++ suffix)

def anchor? : Build (Option String) := do
  match ← peek with
  | .anchor name => do
    drop
    pure (some name)
  | _ => pure none

def tag? : Build (Option (String × String)) := do
  match ← peek with
  | .tag handle suffix => do
    drop
    pure (some (handle, suffix))
  | _ => pure none

def blockItems (item : Build Node) : Nat → Build (List Node)
  | 0 => failure
  | fuel + 1 => do
    let t ← peek
    drop
    match t with
    | .blockEntry => do
      let n ← unlessAt [.blockEntry, .blockEnd] item
      pure (n :: (← blockItems item fuel))
    | .blockEnd => pure []
    | _ => failure

/-- The items of a sequence that is indented no further than its key. -/
def flatItems (item : Build Node) : Nat → Build (List Node)
  | 0 => failure
  | fuel + 1 => do
    match ← peek with
    | .blockEntry => do
      drop
      let n ← unlessAt [.blockEntry, .key, .value, .blockEnd] item
      pure (n :: (← flatItems item fuel))
    | _ => pure []

def blockPairs (item : Build Node) : Nat → Build (List (Node × Node))
  | 0 => failure
  | fuel + 1 => do
    let t ← peek
    drop
    match t with
    | .key => do
      let k ← unlessAt [.key, .value, .blockEnd] item
      let v ← match ← peek with
        | .value => do
          drop
          unlessAt [.key, .value, .blockEnd] item
        | _ => absent
      pure ((k, v) :: (← blockPairs item fuel))
    | .blockEnd => pure []
    | _ => failure

/-- A pair in a flow sequence, behind its mark. Where the key is not written, the token in its
place goes with it. -/
def flowPair (item : Build Node) : Build Node := do
  count 2
  let k ← if (← peek) ∈ [.value, .flowEntry, .flowSequenceEnd] then do
      drop
      absent
    else item
  let v ← match ← peek with
    | .value => do
      drop
      unlessAt [.flowEntry, .flowSequenceEnd] item
    | _ => absent
  pure (.mapping none [(k, v)])

/-- The items of a flow sequence, up to and with its end. Every item but the first has a comma in
front of it. -/
def flowItems (item : Build Node) (first : Bool) : Nat → Build (List Node)
  | 0 => failure
  | fuel + 1 => do
    let t ← peek
    if t = .flowSequenceEnd then do
      drop
      pure []
    else do
      if !first then
        if t = .flowEntry then drop else failure
      match ← peek with
      | .flowSequenceEnd => do
        drop
        pure []
      | .key => do
        drop
        let n ← flowPair item
        pure (n :: (← flowItems item false fuel))
      | _ => do
        let n ← item
        pure (n :: (← flowItems item false fuel))

/-- The pairs of a flow mapping, up to and with its end. Every pair but the first has a comma in
front of it; a key need not have a value. -/
def flowPairs (item : Build Node) (first : Bool) : Nat → Build (List (Node × Node))
  | 0 => failure
  | fuel + 1 => do
    let t ← peek
    if t = .flowMappingEnd then do
      drop
      pure []
    else do
      if !first then
        if t = .flowEntry then drop else failure
      match ← peek with
      | .flowMappingEnd => do
        drop
        pure []
      | .key => do
        drop
        let k ← unlessAt [.value, .flowEntry, .flowMappingEnd] item
        let v ← match ← peek with
          | .value => do
            drop
            unlessAt [.flowEntry, .flowMappingEnd] item
          | _ => absent
        pure ((k, v) :: (← flowPairs item false fuel))
      | _ => do
        let k ← item
        let v ← absent
        pure ((k, v) :: (← flowPairs item false fuel))

/-- What follows the anchor and the tag of a node. `block` says whether blocks may stand here,
`flat` whether a sequence may that is indented no further. -/
def content (item : Bool → Bool → Build Node) (block flat marked : Bool) (tag : Option String) :
    Build Node := do
  let fuel ← tokensLeft
  let t ← peek
  match t with
  | .scalar text plain => do
    drop
    count 1
    pure (if tag = some "!" then .scalar none text true else .scalar tag text plain)
  | .flowSequence => do
    drop
    count 2
    pure (.sequence tag (← flowItems (item false false) true fuel))
  | .flowMapping => do
    drop
    count 2
    pure (.mapping tag (← flowPairs (item false false) true fuel))
  | _ =>
    if flat ∧ t = .blockEntry then do
      count 2
      pure (.sequence tag (← flatItems (item true false) fuel))
    else if block ∧ t = .blockSequence then do
      drop
      count 2
      pure (.sequence tag (← blockItems (item true false) fuel))
    else if block ∧ t = .blockMapping then do
      drop
      count 2
      pure (.mapping tag (← blockPairs (item true true) fuel))
    else if marked then do
      count 1
      pure (.scalar tag "" true)
    else failure

def node : Nat → Bool → Bool → Build Node
  | 0, _, _ => failure
  | fuel + 1, block, flat => do
    match ← peek with
    | .alias name => do
      drop
      follow name
    | _ => do
      let first ← anchor?
      let tag ← tag?
      let anchor ← if first.isNone ∧ tag.isSome then anchor? else pure first
      let serial ← bind anchor
      let tag ← match tag with
        | some (handle, suffix) => some <$> expandTag handle suffix
        | none => pure none
      let n ← content (node fuel) block flat (anchor.isSome || tag.isSome) tag
      settle serial n

def root : Build Node := do
  let fuel ← tokensLeft
  match ← peek with
  | .version _ _ | .tagDirective _ _ | .documentStart | .documentEnd | .streamEnd => absent
  | _ => node (fuel + 1) true false

def documentEnd : Build Unit := do
  if (← peek) = .documentEnd then drop

def document (root : Build Node) : Build (Document × List Token) := do
  let n ← root
  documentEnd
  let b ← get
  pure (⟨n, b.serials, b.nodes, b.size⟩, b.tokens)

end Build

def commonHandles : List (String × String) := [("!", "!"), ("!!", "tag:yaml.org,2002:")]

structure Directives where
  hasVersion : Bool := false
  handles : List (String × String) := []

/-- The directives at the front and the tokens behind them. A version may be given once, and each
handle once. -/
def directives? (d : Directives) : List Token → Option (Directives × List Token)
  | .version major minor :: ts =>
    if d.hasVersion ∨ major ≠ 1 ∨ (minor ≠ 1 ∧ minor ≠ 2) then none
    else directives? { d with hasVersion := true } ts
  | .tagDirective handle lead :: ts =>
    if Dict.contains d.handles handle then none
    else directives? { d with handles := d.handles ++ [(handle, lead)] } ts
  | ts => some (d, ts)

inductive Next where
  | ending
  | bad
  | found (d : Document) (rest : List Token)

/-- The document at the front. Only the first one may begin without a line that says so. -/
def next (first : Bool) (tokens : List Token) : Next :=
  let tokens := if first then tokens else tokens.dropWhile (· = .documentEnd)
  let build (root : Build Node) (handles : List (String × String)) (tokens : List Token) : Next :=
    match (Build.document root).run { tokens := tokens, handles := handles ++ commonHandles } with
    | some ((d, rest), _) => .found d rest
    | none => .bad
  let begun := match tokens with
    | .version _ _ :: _ | .tagDirective _ _ :: _ | .documentStart :: _ => true
    | _ => false
  if tokens = [.streamEnd] then .ending
  else if first ∧ !begun then build (Build.node (tokens.length + 1) true false) [] tokens
  else match directives? {} tokens with
    | some (d, .documentStart :: ts) => build Build.root d.handles ts
    | _ => .bad

/-- The documents of some tokens, at most so many of them; none stands for one that is malformed,
with which they end. -/
def documentsFrom (first : Bool) : Nat → List Token → List (Option Document)
  | 0, _ => []
  | fuel + 1, tokens =>
    match next first tokens with
    | .ending => []
    | .bad => [none]
    | .found d rest => some d :: documentsFrom false fuel rest

def emptyDocument : Document := ⟨.scalar none "" true, [], [], 1⟩

/-- The documents of a text. A text without any holds an empty one. -/
def documents (s : String) : List (Option Document) :=
  let ts := tokens s
  match documentsFrom true (ts.length + 1) ts with
  | [] => [some emptyDocument]
  | ds => ds

end Resilience.Yaml
