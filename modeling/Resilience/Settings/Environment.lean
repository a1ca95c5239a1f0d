import Resilience.Settings.Source
import Resilience.Duration.Reader
/-! # Settings from the environment

Variables are read one by one by name. A bad value is remembered and the built-in value taken
in its place, so that all of them can be reported together.
-/
namespace Resilience

inductive VariableError where
  | notBool (var value : String)
  | notCount (var value : String)
  | duration (var value : String) (reason : Duration.ReadError)
  | outOfRange (var : String) (value low high : Nat)
  | logLevel (var value : String)
deriving DecidableEq, Repr

def VariableError.message : VariableError → String
  | .notBool var value =>
    s!"Invalid value for {var}: expected boolean (true/false/1/0/yes/no), got '{value}'"
  | .notCount var value =>
    s!"Invalid value for {var}: expected unsigned 32-bit integer, got '{value}'"
  | .duration var value reason => s!"Invalid duration for {var}: {value} ({reason.message})"
  | .outOfRange var value low high =>
    s!"Value out of range for {var}: {value} (valid: {low}..={high})"
  | .logLevel var value => s!"Invalid log level for {var}: {value}"

structure Environment where
  vars : Dict String String
  lead : String := "KCERT_"
  errors : List VariableError := []

namespace Environment

def fullName (env : Environment) (name : String) : String := env.lead ++ name

def value? (env : Environment) (name : String) : Option String :=
  Dict.find? env.vars (env.fullName name)

def refuse (env : Environment) (e : VariableError) : Environment :=
  { env with errors := env.errors ++ [e] }

def takeErrors (env : Environment) : List VariableError × Environment :=
  (env.errors, { env with errors := [] })

def readWith {α : Type} (env : Environment) (name : String) (default : α)
    (read : String → String → Except VariableError α) : Sourced α × Environment :=
  match env.value? name with
  | none => (.ofDefault default, env)
  | some value =>
    match read (env.fullName name) value with
    | .ok a => (.ofVariable a (env.fullName name), env)
    | .error e => (.ofDefault default, env.refuse e)

def string (env : Environment) (name default : String) : Sourced String :=
  match env.value? name with
  | none => .ofDefault default
  | some value => .ofVariable value (env.fullName name)

/-- A text, absent if it is empty. -/
def optionalString (env : Environment) (name : String) : Sourced (Option String) :=
  match env.value? name with
  | none => .ofDefault none
  | some value => .ofVariable (if value = "" then none else some value) (env.fullName name)

/-- The truth value that a word stands for; case does not matter, and no word is no. -/
def boolOfWord? (word : String) : Option Bool :=
  match word.map Char.toLower with
  | "1" | "true" | "yes" | "on" => some true
  | "0" | "false" | "no" | "off" | "" => some false
  | _ => none

/-- A truth value. A bad word counts as set by the variable, with the built-in value. -/
def bool (env : Environment) (name : String) (default : Bool) : Sourced Bool × Environment :=
  match env.value? name with
  | none => (.ofDefault default, env)
  | some word =>
    match boolOfWord? word with
    | some b => (.ofVariable b (env.fullName name), env)
    | none => (.ofVariable default (env.fullName name),
        env.refuse (.notBool (env.fullName name) word))

def count (env : Environment) (name : String) (default low high : Nat) :
    Sourced Nat × Environment :=
  env.readWith name default fun var value =>
    match Duration.count? (twoTo 32) value.toList with
    | none => .error (.notCount var value)
    | some n => if low ≤ n ∧ n ≤ high then .ok n else .error (.outOfRange var n low high)

def duration (env : Environment) (name : String) (default : Duration) :
    Sourced Duration × Environment :=
  env.readWith name default fun var value =>
    match Duration.read value with
    | .ok d => .ok d
    | .error e => .error (.duration var value e)

def logLevels : List String := ["trace", "debug", "info", "warn", "error", "off"]

def logLevel (env : Environment) (name default : String) : Sourced String × Environment :=
  env.readWith name default fun var value =>
    let level := value.map Char.toLower
    if level ∈ logLevels then .ok level else .error (.logLevel var value)

end Environment
end Resilience
