import PropertyFilter.CommandLine
import PropertyFilter.EnvFile
import PropertyFilter.Json.Writer
import PropertyFilter.Settings
import PropertyFilter.Workspace

/-!
# The program

One run of the program, from its arguments to what it prints, given what it may read. It
describes resources, and compiles requests for them. Counting rows would need a database,
which is not reached from here: a run that gets that far ends with the refusal of its URL.

## Main definitions

* `ProgramError` — why a run fails
* `Settings.load` — the settings of an invocation
* `Program.answer` — what an invocation prints
* `Program.run` — a whole run
-/

namespace PropertyFilter

/-- Why a database URL is refused. -/
inductive ConnectionError where
  | urlMissing
  | urlInvalid
deriving DecidableEq, Repr

/-- An error in words. -/
def ConnectionError.message : ConnectionError → String
  | urlMissing => "Configuration error: PostgreSQL URL is required"
  | urlInvalid => "Configuration error: Invalid PostgreSQL URL"

/-- The refusal of a database URL. -/
def ConnectionError.ofUrl (url : String) : ConnectionError :=
  if url.isEmpty then urlMissing else urlInvalid

/-- Why a run fails. -/
inductive ProgramError where
  | environment (cause : EnvFileError)
  | usage (cause : UsageError)
  | settings (cause : SettingsError)
  | filters (resource : String) (cause : FilterError)
  | urlMissing
  | schemeUnknown
  | platform (cause : FilterError)
  | connection (cause : ConnectionError)
deriving DecidableEq, Repr

/-- An error in words. -/
def ProgramError.message : ProgramError → String
  | environment cause => cause.message
  | usage cause => cause.message
  | settings cause => cause.message
  | filters resource cause =>
    "Failed to compile filters for '" ++ resource ++ "': " ++ cause.message
  | urlMissing =>
    "No database URL: pass --database-url, set " ++ CommandLine.Given.databaseUrlVariable ++
      " or database_url in the config file"
  | schemeUnknown => "Unrecognized database URL scheme"
  | platform cause => cause.message
  | connection cause => "Failed to connect to PostgreSQL: " ++ cause.message

/-- The file that settings are read from where no other is named. -/
def Settings.defaultPath : String := "jsonfilter.json"

/-- Reads a settings file, if anything lies at its path. -/
def SettingsFile.readAt? (read : String → FileState) (path : String) :
    Option (Except SettingsError SettingsFile) :=
  match read path with
  | .missing => none
  | .directory => some (.error (.fileUnreadable path))
  | .file text =>
    match SettingsFile.parse? text with
    | some file => some (.ok file)
    | none => some (.error (.fileMalformed path))

/-- Reads the settings file: the one that is named, which has to exist, or else the default one
if there is one. -/
def SettingsFile.load (read : String → FileState) : Option String →
    Except SettingsError SettingsFile
  | some path => (readAt? read path).getD (.error (.fileMissing path))
  | none => (readAt? read Settings.defaultPath).getD (.ok .empty)

/-- The settings of an invocation, with the events that are logged on the way. -/
def Settings.load (read : String → FileState) (path url : Option String) :
    Except SettingsError (Settings × List LogEvent) := do
  let file ← SettingsFile.load read path
  let settings ← Settings.ofFile file url
  .ok (settings, file.warning?.toList ++ settings.warnings)

namespace Program

/-- The name and version that the program gives. -/
def versionText : String := "jsonfilter 0.1.0\n"

/-- What the program says about its use. -/
def usageText : String :=
  "Filter PostgreSQL rows by JSON column properties\n\n" ++
  "Usage: jsonfilter [OPTIONS] <COMMAND>\n\n" ++
  "Commands:\n" ++
  "  describe  Print the filter parameters a resource accepts\n" ++
  "  compile   Compile a filter request and print the SQL with its parameters\n" ++
  "  count     Count matching rows in PostgreSQL\n" ++
  "  help      Print this message or the help of the given subcommand(s)\n\n" ++
  "Options:\n" ++
  "  -c, --config <CONFIG>              Path to config file\n" ++
  "      --database-url <DATABASE_URL>  PostgreSQL connection URL (used by `count`)\n" ++
  "  -h, --help                         Print help\n" ++
  "  -V, --version                      Print version\n"

/-- Whether filters can be compiled for the engine of a database URL. -/
def checkUrl (url : String) : Except ProgramError Unit :=
  match Backend.ofUrl? url with
  | none => .error .schemeUnknown
  | some backend =>
    if backend.isJsonCapable then .ok () else .error (.platform (.invalidPlatform backend))

/-- Compiles a request for a resource. -/
def compile (r : Resource) (filters : List (String × String)) : Except ProgramError Report :=
  match r.compile filters with
  | .ok (_, report) => .ok report
  | .error cause => .error (.filters r.name cause)

/-- Looks a resource up. -/
def resource (s : Settings) (name : String) : Except ProgramError Resource :=
  (s.resource name).mapError .settings

/-- What a command prints, with the events that are logged on the way. -/
def answer (s : Settings) : Command → Except ProgramError (Json × List LogEvent)
  | .describe name => do
    let r ← resource s name
    .ok (.object (r.filters.describe.map Descriptor.toJson).toList, [])
  | .compile name filters => do
    let r ← resource s name
    let report ← compile r filters
    .ok (report.toJson, report.warnings)
  | .count name filters => do
    let r ← resource s name
    match s.databaseUrl with
    | none => .error .urlMissing
    | some url => do
      checkUrl url
      let _ ← compile r filters
      .error (.connection (.ofUrl url))

/-- How a run ends. -/
structure Exit where
  /-- The exit code: zero for success, one for a failed run, two for arguments that make no
  invocation, and 101 for an environment that cannot be set up. -/
  code : Nat
  /-- What is printed. -/
  output : String
  /-- Why the run failed, if it did. -/
  failure : Option ProgramError
  /-- What is logged. -/
  events : List LogEvent

/-- How a run ends whose arguments make no invocation. -/
def Exit.ofUsage : UsageError → Exit
  | .displayHelp => ⟨0, usageText, none, []⟩
  | .displayVersion => ⟨0, versionText, none, []⟩
  | e => ⟨2, "", some (.usage e), []⟩

/-- Carries out an invocation. -/
def carryOut (read : String → FileState) (i : Invocation) : Exit :=
  match Settings.load read i.config i.databaseUrl with
  | .error cause => ⟨1, "", some (.settings cause), []⟩
  | .ok (settings, events) =>
    match answer settings i.command with
    | .error e => ⟨1, "", some e, events⟩
    | .ok (json, more) => ⟨0, json.pretty ++ "\n", none, events ++ more⟩

/-- The environment with the variables of the environment file. -/
def environment (read : String → FileState) (env : Environment) :
    Except EnvFileError Environment :=
  match read ".env" with
  | .file text => EnvFile.load env text
  | _ => .ok env

/-- A whole run, given the files that it may read, its environment and its arguments. -/
def run (read : String → FileState) (env : Environment) (args : List String) : Exit :=
  match environment read env with
  | .error cause => ⟨101, "", some (.environment cause), []⟩
  | .ok env =>
    match CommandLine.parse env args with
    | .error e => .ofUsage e
    | .ok i => carryOut read i

end Program

end PropertyFilter
