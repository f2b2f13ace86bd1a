import PropertyFilter.Program

/-!
# The executable

Gathers what a run may read, lets `Program.run` decide everything, and prints what it says.
-/

namespace PropertyFilter

/-- What lies at a path on disk. -/
def readState (path : String) : IO FileState :=
  try
    return .file (← IO.FS.readFile path)
  catch
    | .noFileOrDirectory .. => return .missing
    | _ => return .directory

/-- The variables of the process that a run can ask for: those of its options, and all that the
environment file may set or name. -/
def readEnvironment (envFile : FileState) : IO Environment := do
  let mentioned :=
    match envFile with
    | .file text => EnvFile.mentioned text
    | _ => []
  let names :=
    [CommandLine.Given.configVariable, CommandLine.Given.databaseUrlVariable] ++ mentioned
  names.foldlM (fun env name => do
    match ← IO.getEnv name with
    | some value => return env.insert name value
    | none => return env) SortedMap.empty

/-- The text of a log event. -/
def LogEvent.line (e : LogEvent) : String :=
  e.level.name ++ " " ++ e.message ++ String.join (e.fields.map fun f => " " ++ f.1 ++ "=" ++ f.2)

end PropertyFilter

open PropertyFilter

/-- Runs the program on the arguments of the process. -/
def main (args : List String) : IO UInt32 := do
  let envFile ← readState ".env"
  let env ← readEnvironment envFile
  let read₀ := fun path => if path = ".env" then envFile else .missing
  let named :=
    match (Program.environment read₀ env).toOption.bind fun env =>
        (CommandLine.parse env args).toOption with
    | some i => i.config
    | none => none
  let path := named.getD Settings.defaultPath
  let settings ← readState path
  let read := fun p => if p = path then settings else read₀ p
  let exit := Program.run read env args
  for e in exit.events do
    IO.eprintln e.line
  IO.print exit.output
  if let some failure := exit.failure then
    IO.eprintln ("\nError: " ++ failure.message ++ "\n")
  return UInt32.ofNat exit.code
