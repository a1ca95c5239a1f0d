import Resilience.Json.Typed
/-! # Documents seen from their top

A value and a part of a text can be looked at in the same way: what stands at the top, the parts
below it, and the whole value. A part of a text may turn out unreadable only when it is looked at,
so that parts nobody looks at may hold anything.
-/
namespace Resilience.Json

inductive Shape (δ : Type) where
  | null
  | bool (b : Bool)
  | number (n : Number)
  | text (s : String)
  | items (parts : List δ)
  | members (parts : List (String × δ))
  | unreadable

/-- Documents whose parts are documents again. -/
class Document (δ : Type) where
  shape : δ → Shape δ
  /-- The value of the whole. -/
  value? : δ → Option Json

def shape : Json → Shape Json
  | .null => .null
  | .bool b => .bool b
  | .number n => .number n
  | .string s => .text s
  | .array items => .items items
  | .object members => .members members

instance : Document Json := ⟨shape, some⟩

structure TreePart where
  depth : Nat
  tree : Tree

namespace TreePart

def shape (p : TreePart) : Shape TreePart :=
  match p.tree, p.depth with
  | .null, _ => .null
  | .bool b, _ => .bool b
  | .numeral n, _ => (n.number?.map .number).getD .unreadable
  | .string s, _ => (s.map .text).getD .unreadable
  | .array items, depth + 1 => .items (items.map fun t => ⟨depth, t⟩)
  | .object members, depth + 1 =>
    match Tree.wholeMembers? members with
    | some ms => .members (ms.map fun m => (m.1, ⟨depth, m.2⟩))
    | none => .unreadable
  | _, 0 => .unreadable

def value? (p : TreePart) : Option Json := p.tree.value? p.depth

instance : Document TreePart := ⟨shape, value?⟩

def ofText? (s : String) : Option TreePart :=
  (Tree.ofChars? s.toList).map fun t => ⟨maxDepth, t⟩

end TreePart
end Resilience.Json
