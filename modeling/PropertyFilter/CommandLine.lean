import PropertyFilter.Request

/-!
# The command line

Arguments of the program. It has three commands, which take a resource and, for two of them,
filters; options for the settings file and the database URL may stand before or after the
command. An option has its value attached or in the next argument, and two hyphens alone end
the options.

Arguments are read one at a time. An option that is still waiting for its value, or whose value
has not been looked at, is pending; it is settled when the next option comes or when the
arguments end, so that the first defect is the one that is reported.

## Main definitions

* `Invocation` — a command with its options
* `UsageError` — why arguments make no invocation
* `CommandLine.parse` — the invocation of a list of arguments
-/

namespace PropertyFilter

/-- What the program is asked to do. -/
inductive Command where
  /-- List the names that requests may use. -/
  | describe (resource : String)
  /-- Compile a request and show the query. -/
  | compile (resource : String) (filters : List (String × String))
  /-- Count the rows that a request matches. -/
  | count (resource : String) (filters : List (String × String))
deriving DecidableEq, Repr

/-- A command with its options. -/
structure Invocation where
  /-- What is to be done. -/
  command : Command
  /-- The path of the settings file. -/
  config : Option String
  /-- The URL of the database. -/
  databaseUrl : Option String
deriving DecidableEq, Repr

/-- Why arguments make no invocation. Asking for help is one of the reasons. -/
inductive UsageError where
  | displayHelp
  | displayVersion
  | missingCommand
  | missingRequiredArgument
  | emptyValue
  | unknownArgument
  | unknownCommand
  | argumentConflict
  | tooManyValues
  | nothingGiven
  /-- A filter that names no property. -/
  | badFilter (written : String)
deriving DecidableEq, Repr

/-- An error in words. -/
def UsageError.message : UsageError → String
  | displayHelp => "Help was asked for"
  | displayVersion => "The version was asked for"
  | missingCommand => "A command is needed"
  | missingRequiredArgument => "The resource is not given"
  | emptyValue => "The value of an option is missing or empty"
  | unknownArgument => "An argument is not known"
  | unknownCommand => "A command is not known"
  | argumentConflict => "An option is given twice"
  | tooManyValues => "A value is given to an option that takes none"
  | nothingGiven => "No arguments are given"
  | badFilter written =>
    "Invalid filter '" ++ written ++ "'. Expected property=value or property[]=value"

namespace CommandLine

/-- The options that take a value. -/
inductive Setting where
  | config
  | databaseUrl
  | resource
  | filter
deriving DecidableEq, Repr

/-- What an option stands for. -/
inductive Switch where
  | setting (s : Setting)
  | help
  | version
deriving DecidableEq, Repr

/-- Where an argument stands: before a command, or after one. -/
inductive Place where
  | top
  /-- After a command without filters. -/
  | bare
  /-- After a command with filters. -/
  | filtered
deriving DecidableEq, Repr

/-- The options that are known at a place. -/
def Place.knows : Place → Switch → Bool
  | _, .help => true
  | _, .setting .config => true
  | _, .setting .databaseUrl => true
  | .top, .version => true
  | .bare, .setting .resource => true
  | .filtered, .setting .resource => true
  | .filtered, .setting .filter => true
  | _, _ => false

/-- The option of a long name. -/
def longSwitch? : String → Option Switch
  | "config" => some (.setting .config)
  | "database-url" => some (.setting .databaseUrl)
  | "resource" => some (.setting .resource)
  | "filter" => some (.setting .filter)
  | "help" => some .help
  | "version" => some .version
  | _ => none

/-- The option of a letter. -/
def shortSwitch? : Char → Option Switch
  | 'c' => some (.setting .config)
  | 'r' => some (.setting .resource)
  | 'f' => some (.setting .filter)
  | 'h' => some .help
  | 'V' => some .version
  | _ => none

/-- A filter argument: a pair whose name is not empty. -/
def filterPair (written : String) : Except UsageError (String × String) :=
  let pair := Request.splitPair written
  if pair.1.isEmpty then .error (.badFilter written) else .ok pair

/-- The options that have been given. -/
structure Given where
  /-- The path of the settings file. -/
  config : Option String
  /-- The URL of the database. -/
  databaseUrl : Option String
  /-- The resource. -/
  resource : Option String
  /-- The filters, in their order. -/
  filters : List (String × String)
deriving DecidableEq, Repr

namespace Given

/-- No options. -/
def nothing : Given := ⟨none, none, none, []⟩

/-- Takes up the value of an option. Only filters may be given twice, and the path of a file
may not be empty. -/
def put (g : Given) (s : Setting) (value : String) : Except UsageError Given :=
  match s with
  | .config =>
    if g.config.isSome then .error .argumentConflict
    else if value.isEmpty then .error .emptyValue
    else .ok { g with config := some value }
  | .databaseUrl =>
    if g.databaseUrl.isSome then .error .argumentConflict
    else .ok { g with databaseUrl := some value }
  | .resource =>
    if g.resource.isSome then .error .argumentConflict
    else .ok { g with resource := some value }
  | .filter => (filterPair value).map fun pair => { g with filters := g.filters ++ [pair] }

/-- The environment variable for the path of the settings file. -/
def configVariable : String := "JSONFILTER_CONFIG"

/-- The environment variable for the URL of the database. -/
def databaseUrlVariable : String := "JSONFILTER_DATABASE_URL"

/-- Takes up the options that were not given but that the environment has a value for. -/
def fillFrom (env : SortedMap String) (g : Given) : Except UsageError Given := do
  let g ←
    match g.config, env.get? configVariable with
    | none, some value => g.put .config value
    | _, _ => .ok g
  match g.databaseUrl, env.get? databaseUrlVariable with
  | none, some value => g.put .databaseUrl value
  | _, _ => .ok g

end Given

/-- What has been read at a place. -/
structure State where
  /-- The options whose values have been looked at. -/
  given : Given
  /-- The last option, with its value if that has come. -/
  pending : Option (Setting × Option String)

/-- Looks at the value of the pending option. -/
def State.settle (s : State) : Except UsageError Given :=
  match s.pending with
  | none => .ok s.given
  | some (_, none) => .error .emptyValue
  | some (setting, some value) => s.given.put setting value

/-- Reads an option that takes a value, which may be attached to it. -/
def State.readSetting (s : State) (setting : Setting) (attached : Option String) :
    Except UsageError State := do
  let given ← s.settle
  match attached with
  | none => .ok ⟨given, some (setting, none)⟩
  | some value => (given.put setting value).map (⟨·, none⟩)

/-- Reads an option that takes no value; it ends the reading. -/
def State.readFlag (s : State) (e : UsageError) : Except UsageError State := do
  let _ ← s.settle
  .error e

/-- Reads an argument that starts with two hyphens, without these. -/
def State.readLong (s : State) (place : Place) (body : List Char) : Except UsageError State :=
  let (name, attached) := Text.cut '=' body
  match (longSwitch? (String.ofList name)).filter place.knows, attached.map String.ofList with
  | none, _ => .error .unknownArgument
  | some (.setting setting), attached => s.readSetting setting attached
  | some .help, none => s.readFlag .displayHelp
  | some .version, none => s.readFlag .displayVersion
  | some _, some _ => .error .tooManyValues

/-- Reads the letters of an argument that starts with one hyphen. What follows the letter of an
option that takes a value is that value, with or without an equals sign before it. -/
def State.readShort (s : State) (place : Place) : List Char → Except UsageError State
  | [] => .ok s
  | c :: cs =>
    match (shortSwitch? c).filter place.knows with
    | none => .error .unknownArgument
    | some .help => s.readFlag .displayHelp
    | some .version => s.readFlag .displayVersion
    | some (.setting setting) =>
      match cs with
      | [] => s.readSetting setting none
      | '=' :: value => s.readSetting setting (some (String.ofList value))
      | value => s.readSetting setting (some (String.ofList value))

/-- The names of the commands. -/
inductive CommandName where
  | describe
  | compile
  | count
  /-- Shows help, like the option of that name. -/
  | help
deriving DecidableEq, Repr

/-- The command of a name. -/
def CommandName.ofString? : String → Option CommandName
  | "describe" => some .describe
  | "compile" => some .compile
  | "count" => some .count
  | "help" => some .help
  | _ => none

/-- How reading the arguments at a place ends. -/
inductive Ending where
  /-- With the last argument. -/
  | finished (s : State)
  /-- With a command, which the rest of the arguments belongs to. -/
  | command (s : State) (name : CommandName) (rest : List String)

/-- The error for an argument that is neither an option nor the value of one. -/
def strayArgument (place : Place) (optionsEnded : Bool) (arg : String) : UsageError :=
  match place with
  | .top =>
    if optionsEnded && (CommandName.ofString? arg).isSome then .unknownArgument else .unknownCommand
  | _ => .unknownArgument

/-- Whether an option is waiting for its value. -/
def State.isWaiting (s : State) : Bool :=
  match s.pending with
  | some (_, none) => true
  | _ => false

/-- Reads the arguments at a place, up to their end or to a command. -/
def read (place : Place) (s : State) : List String → Except UsageError Ending
  | [] => .ok (.finished s)
  | arg :: rest =>
    match (if place = .top && !s.isWaiting then CommandName.ofString? arg else none) with
    | some name => .ok (.command s name rest)
    | none =>
      match arg.toList with
      | ['-', '-'] =>
        -- No option and no command can follow.
        match rest with
        | [] => .ok (.finished s)
        | stray :: _ => .error (strayArgument place true stray)
      | '-' :: '-' :: body => do read place (← s.readLong place body) rest
      | '-' :: c :: cs => do read place (← s.readShort place (c :: cs)) rest
      | _ =>
        match s.pending with
        | some (setting, none) => read place ⟨s.given, some (setting, some arg)⟩ rest
        | _ => .error (strayArgument place false arg)

/-- The options after a command. -/
def readOptions (place : Place) (args : List String) : Except UsageError Given := do
  match ← read place ⟨.nothing, none⟩ args with
  | .finished s => s.settle
  | .command s _ _ => s.settle

/-- Shows help, for the whole program or for the command that is named. -/
def readHelp : List String → UsageError
  | [] => .displayHelp
  | [name] => if (CommandName.ofString? name).isSome then .displayHelp else .unknownCommand
  | _ => .unknownCommand

/-- The invocation of a command, given the options before it and the arguments after it. Where
an option stands on both sides the later one counts, and the environment comes last. -/
def finish (env : SortedMap String) (before : State) (place : Place) (rest : List String)
    (command : String → List (String × String) → Command) : Except UsageError Invocation := do
  let after ← readOptions place rest
  let filled ← after.fillFrom env
  match filled.resource with
  | none => .error .missingRequiredArgument
  | some resource => do
    let given ← before.settle
    let before ← given.fillFrom env
    .ok ⟨command resource filled.filters, after.config.or before.config,
      after.databaseUrl.or before.databaseUrl⟩

/-- The invocation of a list of arguments, in an environment. -/
def parse (env : SortedMap String) (args : List String) : Except UsageError Invocation := do
  match ← read .top ⟨.nothing, none⟩ args with
  | .finished s =>
    let given ← (← s.settle).fillFrom env
    .error (if given = .nothing then .nothingGiven else .missingCommand)
  | .command s .describe rest => finish env s .bare rest fun resource _ => .describe resource
  | .command s .compile rest => finish env s .filtered rest .compile
  | .command s .count rest => finish env s .filtered rest .count
  | .command _ .help rest => .error (readHelp rest)

end CommandLine

end PropertyFilter
