import Resilience.Text.Split
/-! # Reading a command line

A command line is a chain of verbs, each with its flags. A flag is written in full after two dashes
or as one letter after one dash, letters may share a dash, and a value stands in the next argument
or behind the flag itself. Arguments are read from left to right, and the first one that stops the
reading decides.
-/
namespace Resilience.Flags

structure Flag where
  name : String
  letter : Option Char := none
  takesValue : Bool := true
  repeatable : Bool := false
  accepts : String → Bool := fun _ => true

inductive Verb where
  | mk (name : String) (flags : List Flag) (required : List String) (verbs : List Verb)

namespace Verb

def name : Verb → String
  | mk name _ _ _ => name

def flags : Verb → List Flag
  | mk _ flags _ _ => flags

def required : Verb → List String
  | mk _ _ required _ => required

def verbs : Verb → List Verb
  | mk _ _ _ verbs => verbs

def flag? (v : Verb) (name : String) : Option Flag := v.flags.find? fun f => f.name = name

def letter? (v : Verb) (letter : Char) : Option Flag :=
  v.flags.find? fun f => f.letter = some letter

def verb? (v : Verb) (name : String) : Option Verb := v.verbs.find? fun v => v.name = name

end Verb

inductive Misuse where
  | unknownFlag (text : String)
  | unknownVerb (text : String)
  | unexpectedArgument (text : String)
  | unexpectedValue (flag : String)
  | invalidValue (flag value : String)
  | missingValue (flag : String)
  | repeated (flag : String)
  | missingFlags (flags : List String)
  | missingVerb
deriving DecidableEq, Repr

def Misuse.message : Misuse → String
  | .unknownFlag text => s!"unknown flag {text}"
  | .unknownVerb text => s!"unknown command {text}"
  | .unexpectedArgument text => s!"unexpected argument {text}"
  | .unexpectedValue flag => s!"--{flag} takes no value"
  | .invalidValue flag value => s!"invalid value for --{flag}: {value}"
  | .missingValue flag => s!"--{flag} needs a value"
  | .repeated flag => s!"--{flag} was given more than once"
  | .missingFlags flags => "missing " ++ ", ".intercalate (flags.map ("--" ++ ·))
  | .missingVerb => "a command is needed"

inductive Stop where
  | misuse (reason : Misuse)
  | help
  | version
deriving DecidableEq, Repr

structure Given where
  verb : String
  values : List (String × String) := []
deriving DecidableEq, Repr

namespace Given

def valuesOf (g : Given) (name : String) : List String :=
  (g.values.filter fun v => v.1 = name).map Prod.snd

def value? (g : Given) (name : String) : Option String := (g.valuesOf name).head?

def has (g : Given) (name : String) : Bool := (g.value? name).isSome

end Given

def give (f : Flag) (value : String) (g : Given) : Except Stop Given :=
  if !f.repeatable && g.has f.name then .error (.misuse (.repeated f.name))
  else if f.accepts value then .ok { g with values := g.values ++ [(f.name, value)] }
  else .error (.misuse (.invalidValue f.name value))

structure Progress where
  given : Given
  pending : Option Flag := none
  plain : Bool := false

/-- A flag written in full, behind its dashes. Only the first verb knows its version. -/
def readWord (v : Verb) (first : Bool) (text : String) (g : Given) :
    Except Stop (Given × Option Flag) :=
  let (name, value) := match Text.cutFirst? '=' text with
    | some (name, value) => (name, some value)
    | none => (text, none)
  match v.flag? name, value with
  | some f, some value =>
    if f.takesValue then (give f value g).map (·, none)
    else .error (.misuse (.unexpectedValue name))
  | some f, none => if f.takesValue then .ok (g, some f) else (give f "" g).map (·, none)
  | none, value =>
    if value.isSome then .error (.misuse (.unknownFlag ("--" ++ text)))
    else if name = "help" then .error .help
    else if name = "version" && first then .error .version
    else .error (.misuse (.unknownFlag ("--" ++ text)))

/-- Letters behind one dash. What stands behind a letter that takes a value is the value. -/
def readLetters (v : Verb) (first : Bool) (g : Given) :
    List Char → Except Stop (Given × Option Flag)
  | [] => .ok (g, none)
  | c :: cs =>
    match v.letter? c with
    | some f =>
      if f.takesValue then
        match cs with
        | [] => .ok (g, some f)
        | '=' :: value => (give f (String.ofList value) g).map (·, none)
        | value => (give f (String.ofList value) g).map (·, none)
      else do readLetters v first (← give f "" g) cs
    | none =>
      if c = 'h' then .error .help
      else if c = 'V' && first then .error .version
      else .error (.misuse (.unknownFlag ("-" ++ String.singleton c)))

def readHelp (verbs : List Verb) : List String → Stop
  | [] => .help
  | a :: rest =>
    match verbs.find? fun v => v.name = a with
    | some v => readHelp v.verbs rest
    | none => if a = "help" && !verbs.isEmpty then readHelp [] rest else .misuse (.unknownVerb a)

def finish (v : Verb) (p : Progress) : Except Stop Given :=
  match p.pending with
  | some f => .error (.misuse (.missingValue f.name))
  | none =>
    match v.required.filter fun name => !p.given.has name with
    | [] => .ok p.given
    | missing => .error (.misuse (.missingFlags missing))

def readFrom (v : Verb) (first : Bool) (p : Progress) : List String → Except Stop (List Given)
  | [] => do
    let given ← finish v p
    if v.verbs.isEmpty then pure [given] else .error (.misuse .missingVerb)
  | a :: rest =>
    if p.plain then .error (.misuse (.unexpectedArgument a))
    else if a = "--" then readFrom v first { p with plain := true } rest
    else if a.startsWith "-" ∧ a ≠ "-" then
      match p.pending with
      | some f => .error (.misuse (.missingValue f.name))
      | none => do
        let (given, pending) ← if a.startsWith "--"
          then readWord v first (String.ofList (a.toList.drop 2)) p.given
          else readLetters v first p.given (a.toList.drop 1)
        readFrom v first { p with given := given, pending := pending } rest
    else
      match p.pending with
      | some f => do
        let given ← give f a p.given
        readFrom v first { p with given := given, pending := none } rest
      | none =>
        match v.verb? a with
        | some verb => do
          let below ← readFrom verb false { given := ⟨a, []⟩ } rest
          let given ← finish v p
          pure (given :: below)
        | none =>
          if v.verbs.isEmpty then .error (.misuse (.unexpectedArgument a))
          else if a = "help" then .error (readHelp v.verbs rest)
          else .error (.misuse (.unknownVerb a))

def read (v : Verb) (args : List String) : Except Stop (List Given) :=
  readFrom v true { given := ⟨v.name, []⟩ } args

end Resilience.Flags
