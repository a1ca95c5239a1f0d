import Resilience.Command.Run
/-! # The program

Looks at the files that a command may need, runs the command on them, and then writes the files
that it changed and everything it has to say.
-/
namespace Resilience.Program

def variableNames : List String :=
  ["READY_TIMEOUT", "PER_POD_TIMEOUT", "CHAOS_TIMEOUT", "OPERATOR_TIMEOUT", "POLL_INTERVAL",
    "LOG_LEVEL", "TEMPLATES_DIR"].map ("KCERT_" ++ ·)

def readVariables : IO (Dict String String) := do
  let mut vars : Dict String String := []
  for name in Invocation.settingsVariable :: variableNames do
    if let some value ← IO.getEnv name then
      vars := Dict.insert vars name value
  return vars

def readFile (fs : Files) (path : String) : IO Files := do
  try
    let bytes ← IO.FS.readBinFile path
    return fs.put path (.ofBytes bytes.toList)
  catch _ => return fs

def readPath (fs : Files) (path : String) : IO Files := do
  let location := System.mkFilePath [path]
  if path ≠ "" ∧ (← location.isDir) then
    let mut fs := fs.put path .directory
    for entry in ← location.readDir do
      let inner := Path.join path entry.fileName
      if ← (System.mkFilePath [inner]).isDir then fs := fs.put inner .directory
      else fs ← readFile fs inner
    return fs
  else readFile fs path

def directoryOf (path : String) : String :=
  match Text.cutLast? '/' path with
  | some ("", _) => "/"
  | some (directory, _) => directory
  | none => "."

def readFiles (i : Invocation) (vars : Dict String String) : IO Files := do
  let output := i.output.toList
  let named := i.settings.getD Settings.defaultFile :: output ++ output.map directoryOf ++
    Invocation.actionPaths i.action
  let fs ← named.foldlM readPath Files.empty
  match Settings.load fs vars i.settings with
  | .ok settings => settings.faultInjection.templatesDir.toList.foldlM readPath fs
  | .error _ => return fs

def pathOf : List String → String
  | [] => "."
  | part :: parts =>
    if part = Files.rootPart then "/" ++ "/".intercalate parts else "/".intercalate (part :: parts)

def writeFiles (before after : Files) : IO Unit := do
  for (place, content) in after.entries do
    if Dict.find? before.entries place ≠ some content then
      match content with
      | .text s => IO.FS.writeFile (pathOf place) s
      | _ => pure ()

def run (args : List String) : IO Nat := do
  let vars ← readVariables
  let files ← match Invocation.read args vars with
    | .ok i => readFiles i vars
    | .error _ => pure Files.empty
  let (status, t) := Command.run args (⟨files, vars, none⟩ : World Unit)
  IO.print t.output
  IO.eprint t.messages
  writeFiles files t.world.files
  return status

end Resilience.Program

def main (args : List String) : IO UInt32 := do
  return (← Resilience.Program.run args).toUInt32
