import Resilience.Json.Basic
/-! # Where settings come from -/
namespace Resilience

inductive Source where
  | default
  | file (path : String)
  | environment
  | commandLine
deriving DecidableEq, Repr, Inhabited

namespace Source

def text : Source → String
  | .default => "default"
  | .file path => s!"file {path}"
  | .environment => "environment"
  | .commandLine => "command line"

def toJson : Source → Json
  | .default => .object [("kind", .string "default")]
  | .file path => .object [("kind", .string "file"), ("origin", .string path)]
  | .environment => .object [("kind", .string "environment")]
  | .commandLine => .object [("kind", .string "command_line")]

end Source

structure Sourced (α : Type) where
  value : α
  source : Source
  variableName : Option String := none
deriving DecidableEq, Repr

namespace Sourced

variable {α : Type}

def ofDefault (value : α) : Sourced α := ⟨value, .default, none⟩

def ofVariable (value : α) (name : String) : Sourced α := ⟨value, .environment, some name⟩

def ofFile (value : α) (path : String) : Sourced α := ⟨value, .file path, none⟩

def ofCommandLine (value : α) : Sourced α := ⟨value, .commandLine, none⟩

def isDefault (s : Sourced α) : Bool := s.source == .default

/-- The other value, unless that one is built in. -/
def overriddenBy (s other : Sourced α) : Sourced α := if other.isDefault then s else other

/-- The value with its variable or, if it has none, its origin. -/
def text (show_ : α → String) (s : Sourced α) : String :=
  s!"{show_ s.value} (from {s.variableName.getD s.source.text})"

def toJson (f : α → Json) (s : Sourced α) : Json :=
  .object ([("value", f s.value), ("source", s.source.toJson)] ++
    Json.optional "env_var" .string s.variableName)

end Sourced
end Resilience
