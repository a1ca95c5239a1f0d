import Resilience.Command.Flags
import Resilience.Dict
import Resilience.Workload
/-! # What a command line asks for

Every verb also knows the flags for the settings, the report and the log. Of two places that give
one of them the later wins, and a variable of the environment names the settings where no place
does.
-/
namespace Resilience

inductive Action where
  | disrupt (targets : List WorkloadRef)
  | injectFault (workload : WorkloadRef)
  | awaitOperator (namespaceName name : String)
  | compare (baseline candidate : String) (asJson : Bool)
  | addReports (claim directory : String)
deriving DecidableEq, Repr

structure Invocation where
  settings : Option String
  output : Option String
  action : Action
deriving DecidableEq, Repr

namespace Invocation

open Flags (Flag Verb Given Stop)

def pathFlag (name : String) (letter : Option Char := none) : Flag :=
  { name := name, letter := letter, accepts := fun s => s ≠ "" }

def textFlag (name : String) (letter : Option Char := none) : Flag :=
  { name := name, letter := letter }

def switch (name : String) (letter : Option Char := none) : Flag :=
  { name := name, letter := letter, takesValue := false }

def commonFlags : List Flag := [
  pathFlag "config" (some 'c'), switch "verbose" (some 'v'), switch "log-json",
  pathFlag "output" (some 'o')]

def verb (name : String) (flags : List Flag) (required : List String) : Verb :=
  .mk name (commonFlags ++ flags) required []

def programName : String := "kcert"

def version : String := "0.4.2"

def isWorkload (s : String) : Bool := (WorkloadRef.parse s).isOk

def isKind (s : String) : Bool := (WorkloadKind.parse s).isOk

def commandLine : Verb :=
  .mk programName commonFlags [] [
    verb "disrupt" [{ textFlag "target" (some 't') with
      repeatable := true, accepts := isWorkload }] [],
    verb "chaos" [textFlag "namespace" (some 'n'), textFlag "workload" (some 'w'),
      { textFlag "kind" (some 'k') with accepts := isKind }] ["namespace", "workload"],
    verb "operator-wait" [textFlag "namespace" (some 'n'), textFlag "name"]
      ["namespace", "name"],
    verb "compare" [pathFlag "baseline", pathFlag "candidate", switch "json"]
      ["baseline", "candidate"],
    .mk "claim" commonFlags [] [
      verb "add" [pathFlag "claim", pathFlag "reportdir" (some 'r')] ["claim", "reportdir"]]]

def settingsVariable : String := "KCERT_CONFIG"

def last? (chain : List Given) (name : String) : Option String :=
  (chain.filterMap fun g => g.value? name).getLast?

/-- The file of the settings. The variable is looked at by every verb that is not given the flag,
and then has to be a path. -/
def settingsFile (chain : List Given) (vars : Dict String String) :
    Except Stop (Option String) :=
  match Dict.find? vars settingsVariable with
  | none => .ok (last? chain "config")
  | some path =>
    if path = "" && chain.any fun g => !g.has "config" then
      .error (.misuse (.invalidValue "config" path))
    else .ok (some ((last? chain "config").getD path))

def action? (g : Given) : Option Action :=
  let value (name : String) := (g.value? name).getD ""
  match g.verb with
  | "disrupt" =>
    some (.disrupt ((g.valuesOf "target").filterMap fun s => (WorkloadRef.parse s).toOption))
  | "chaos" =>
    let kind := ((g.value? "kind").bind fun s => (WorkloadKind.parse s).toOption).getD .deployment
    some (.injectFault ⟨value "namespace", value "workload", kind⟩)
  | "operator-wait" => some (.awaitOperator (value "namespace") (value "name"))
  | "compare" => some (.compare (value "baseline") (value "candidate") (g.has "json"))
  | "add" => some (.addReports (value "claim") (value "reportdir"))
  | _ => none

def actionPaths : Action → List String
  | .compare baseline candidate _ => [baseline, candidate]
  | .addReports claim directory => [claim, directory]
  | _ => []

def read (args : List String) (vars : Dict String String) : Except Stop Invocation := do
  let chain ← Flags.read commandLine args
  let settings ← settingsFile chain vars
  match chain.getLast?.bind action? with
  | some action => pure ⟨settings, last? chain "output", action⟩
  | none => .error (.misuse .missingVerb)

end Invocation
end Resilience
