/-!
# The working directory

The files that the program may read, as plain data. Outside the working directory lies only what
every system has.

## Main definitions

* `FileState` — what lies at a path
* `Workspace` — the files of a working directory
* `Workspace.state` — what lies at a path
-/

namespace PropertyFilter

/-- What lies at a path. -/
inductive FileState where
  /-- Nothing. -/
  | missing
  /-- Something that exists but has no text. -/
  | directory
  | file (text : String)
deriving DecidableEq, Repr

/-- The entries of a working directory, by their paths in it. -/
structure Workspace where
  /-- The entries, each with its text; an entry without one is a directory. -/
  entries : List (String × Option String)

namespace Workspace

/-- The parts of a path. -/
def parts (path : String) : List String := (path.toList.splitOn '/').map String.ofList

/-- The entry whose parts, last first, are given. -/
def entry (w : Workspace) (reversed : List String) : FileState :=
  if reversed.isEmpty then .directory
  else
    match w.entries.find? fun e => parts e.1 == reversed.reverse with
    | some (_, some text) => .file text
    | some (_, none) => .directory
    | none =>
      if w.entries.any fun e => reversed.reverse.isPrefixOf (parts e.1) then .directory
      else .missing

/-- Follows the parts of a path from a directory. The root of the file system lies above itself;
above a working directory nothing is known but the directories that lead to it. -/
def follow (w : Workspace) (isRoot : Bool) (reversed : List String) : List String → FileState
  | [] => w.entry reversed
  | part :: rest =>
    match w.entry reversed with
    | .directory =>
      if part = "" || part = "." then follow w isRoot reversed rest
      else if part = ".." then
        match reversed with
        | _ :: parent => follow w isRoot parent rest
        | [] =>
          if isRoot then follow w isRoot [] rest
          else if rest.all fun p => p = "" || p = "." || p = ".." then .directory
          else .missing
      else follow w isRoot (part :: reversed) rest
    | _ => .missing

/-- What lies below the root of every file system: its directories, and a device that is always
empty. -/
def root : Workspace :=
  ⟨("dev/null", some "") ::
    ["bin", "boot", "etc", "home", "lib", "media", "mnt", "opt", "proc", "root", "run", "sbin",
      "srv", "sys", "tmp", "usr", "var"].map (·, none)⟩

/-- The number of bytes from which on a path is too long to lead anywhere. -/
def pathLimit : Nat := 4096

/-- What lies at a path. The empty path leads nowhere. -/
def state (w : Workspace) (path : String) : FileState :=
  if path.utf8ByteSize ≥ pathLimit then .missing
  else
    match parts path with
    | [""] => .missing
    | "" :: rest => root.follow true [] rest
    | ps => w.follow false [] ps

end Workspace

end PropertyFilter
