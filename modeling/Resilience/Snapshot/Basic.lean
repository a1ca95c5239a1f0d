import Resilience.Json.Basic
/-! # Snapshots

What a claim says about a cluster: the network plugins and the hardware of its nodes, and the
outcomes of the certification tests.
-/
namespace Resilience

/-- A network configuration of a node; its list of plugins may be null. -/
structure PluginEntry where
  name : String
  plugins : Option (List Json)
deriving Inhabited

/-- The number of plugins; null counts as none. -/
def PluginEntry.count (e : PluginEntry) : Nat := (e.plugins.getD []).length

structure TestCase where
  name : String
  status : String
deriving DecidableEq, Repr, Inhabited

structure Snapshot where
  plugins : Dict String (List PluginEntry) := []
  hardware : Dict String Json := []
  testCases : List TestCase := []
deriving Inhabited

def PluginEntry.toJson (e : PluginEntry) : Json :=
  .object [("name", .string e.name), ("plugins", Json.ofOption .array e.plugins)]

def TestCase.toJson (c : TestCase) : Json :=
  .object [("-name", .string c.name), ("-status", .string c.status)]

namespace Snapshot

def nodeNames (s : Snapshot) : List String := Dict.keys s.hardware

def toJson (s : Snapshot) : Json :=
  .object [
    ("cni_plugins", .object (s.plugins.map fun p =>
      (p.1, .array (p.2.map PluginEntry.toJson)))),
    ("hw_info", .object s.hardware),
    ("test_cases", .array (s.testCases.map TestCase.toJson))]

end Snapshot
end Resilience
