import Resilience.Catalog
import Resilience.Text.Char
/-! # Failures of a command

A failure has a cause, a code where its cause has one, and what the command was about to do.
-/
namespace Resilience

structure Failure where
  code : Option ErrorCode
  cause : String
  /-- What was being done, the widest description first. -/
  context : List String := []
deriving DecidableEq, Repr

namespace Failure

def coded (code : ErrorCode) (message : String) : Failure := ⟨some code, message, []⟩

def plain (message : String) : Failure := ⟨none, message, []⟩

def within (f : Failure) (description : String) : Failure :=
  { f with context := description :: f.context }

def innermost (f : Failure) : String :=
  match f.code with
  | some c => s!"[{c.text}] {f.cause}"
  | none => f.cause

def layers (f : Failure) : List String := f.context ++ [f.innermost]

def text (f : Failure) : String := ": ".intercalate f.layers

def outermost (f : Failure) : String := f.layers.headD ""

def report (f : Failure) : String :=
  s!"Error: {f.text}\n" ++
    match f.code with
    | some c =>
      String.ofList ('\n' :: (Text.trimEnd c.explanation.toList ++ ['\n']))
    | none => ""

@[simp] theorem code_within (f : Failure) (description : String) :
    (f.within description).code = f.code := rfl

@[simp] theorem innermost_within (f : Failure) (description : String) :
    (f.within description).innermost = f.innermost := rfl

end Failure
end Resilience
