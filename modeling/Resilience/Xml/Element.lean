import Resilience.Xml.Event
/-! # XML elements

The events of a document build one tree. A closing tag ends the innermost open element of its
name; text counts inside elements only. A document has exactly one root, and every element is
closed.
-/
namespace Resilience.Xml

/-- An element with its children in order and all its text run together. -/
inductive Element where
  | mk (name : String) (attributes : Attributes) (children : List Element) (text : String)
deriving Inhabited

namespace Element

def name : Element → String
  | .mk name _ _ _ => name

def attributes : Element → Attributes
  | .mk _ attributes _ _ => attributes

def children : Element → List Element
  | .mk _ _ children _ => children

def text : Element → String
  | .mk _ _ _ text => text

end Element

inductive DocumentError where
  | malformed
  | noRoot
  | multipleRoots
  /-- The innermost of the elements that are open at the end. -/
  | unclosed (name : String)
deriving DecidableEq, Repr

def DocumentError.message : DocumentError → String
  | .malformed => "malformed XML"
  | .noRoot => "document has no root element"
  | .multipleRoots => "document has more than one root element"
  | .unclosed name => s!"element <{name}> is never closed"

/-- An element that is open: its children so far and the pieces of its text, last one first. -/
structure OpenElement where
  name : String
  attributes : Attributes
  children : List Element := []
  pieces : List String := []

def OpenElement.close (o : OpenElement) : Element :=
  .mk o.name o.attributes o.children.reverse (String.join o.pieces.reverse)

structure TreeState where
  stack : List OpenElement := []
  root : Option Element := none

namespace TreeState

/-- A complete element goes into the innermost open one; without one it is the root. -/
def attach (t : TreeState) (e : Element) : Except DocumentError TreeState :=
  match t.stack with
  | top :: rest => .ok { t with stack := { top with children := e :: top.children } :: rest }
  | [] => if t.root.isSome then .error .multipleRoots else .ok { t with root := some e }

def step (t : TreeState) : Event → Except DocumentError TreeState
  | .opened name attributes => .ok { t with stack := ⟨name, attributes, [], []⟩ :: t.stack }
  | .leaf name attributes => t.attach (.mk name attributes [] "")
  | .closed name =>
    match t.stack with
    | [] => .error .malformed
    | top :: rest =>
      if top.name = name then { t with stack := rest }.attach top.close else .error .malformed
  | .text content =>
    match t.stack with
    | [] => .ok t
    | top :: rest =>
      match content with
      | none => .error .malformed
      | some s => .ok { t with stack := { top with pieces := s :: top.pieces } :: rest }
  | .aside => .ok t
  | .malformed => .error .malformed

def finish (t : TreeState) : Except DocumentError Element :=
  match t.stack, t.root with
  | top :: _, _ => .error (.unclosed top.name)
  | [], none => .error .noRoot
  | [], some e => .ok e

end TreeState

def Element.ofEvents (es : List Event) : Except DocumentError Element := do
  let t ← es.foldlM TreeState.step {}
  t.finish

def Element.parse (s : String) : Except DocumentError Element := Element.ofEvents (events s)

end Resilience.Xml
