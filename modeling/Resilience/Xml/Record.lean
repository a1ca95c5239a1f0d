import Resilience.Json.Basic
import Resilience.Text.Char
import Resilience.Xml.Element
/-! # XML as JSON

An element becomes an object: attributes under keys with a dash before them, children under their
names, several of one name as an array in order, and text under `#content`. An element of nothing
but text is that text.
-/
namespace Resilience.Xml

/-- One more value under a key: the second one makes an array of the two. -/
def addMember (ms : Dict String Json) (key : String) (value : Json) : Dict String Json :=
  match Dict.find? ms key with
  | some (.array items) => Dict.insert ms key (.array (items ++ [value]))
  | some first => Dict.insert ms key (.array [first, value])
  | none => Dict.insert ms key value

def attributeMembers (attributes : Attributes) : Dict String Json :=
  Dict.ofList (attributes.map fun a => ("-" ++ a.1, Json.string a.2))

mutual

def Element.toJson : Element → Json
  | .mk _ attributes children text =>
    let content := Text.trim text
    if attributes.isEmpty && children.isEmpty then .string content
    else
      let ms := addChildren (attributeMembers attributes) children
      .object (if content = "" then ms else Dict.insert ms "#content" (.string content))

def addChildren (ms : Dict String Json) : List Element → Dict String Json
  | [] => ms
  | e :: es => addChildren (addMember ms e.name e.toJson) es

end

def toJson (s : String) : Except DocumentError Json :=
  (Element.parse s).map fun e => .object [(e.name, e.toJson)]

end Resilience.Xml
