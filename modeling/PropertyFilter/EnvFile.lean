import PropertyFilter.SortedMap
import PropertyFilter.Text.Alphanumeric
import PropertyFilter.Text.Blank

/-!
# Environment files

A file of environment variables, one `NAME=value` to a line. Values may be quoted and may then
span lines; outside single quotes they may escape characters and name other variables. A
variable that the environment has already is not changed. At the first line that cannot be
read the rest of the file is passed over. A value that no environment can hold is an error.

## Main definitions

* `EnvFile.logicalLines` — the lines of a file, quoted line breaks aside
* `EnvFile.assignment` — the variable and the value of a line
* `EnvFile.load` — the environment after a file, unless a value in it is impossible
-/

namespace PropertyFilter

/-- Environment variables. -/
abbrev Environment := SortedMap String

/-- Why the variables of a file cannot be taken over. -/
inductive EnvFileError where
  /-- A value holds the null character, which ends the values in an environment. -/
  | impossibleValue (name : String)
deriving DecidableEq, Repr

/-- An error in words. -/
def EnvFileError.message : EnvFileError → String
  | impossibleValue name => "The value of '" ++ name ++ "' holds a null character"

namespace EnvFile

/-! ### Lines -/

/-- What the end of a line is inside of. -/
inductive Quoting where
  /-- Nothing: the line is complete. -/
  | plain
  /-- A blank, after which a comment may start. -/
  | blank
  /-- An escape outside quotes. -/
  | escape
  /-- Single quotes, after a backslash or not. -/
  | single (escaped : Bool)
  /-- Double quotes, after a backslash or not. -/
  | double (escaped : Bool)
deriving DecidableEq, Repr

/-- The start of a word or quote, outside quotes. -/
def Quoting.start (c : Char) : Quoting :=
  if c = '\\' then .escape else if c = '"' then .double false
  else if c = '\'' then .single false else .plain

/-- What a character does to the quoting. -/
def Quoting.step (c : Char) : Quoting → Quoting
  | .blank => .start c
  | .escape => .plain
  | .plain =>
    if Text.isBlank c && c ≠ '\n' && c ≠ '\r' then .blank else .start c
  | .double true => .double false
  | .double false => if c = '\\' then .double true else if c = '"' then .plain else .double false
  | .single true => .single false
  | .single false =>
    if c = '\\' then .single true else if c = '\'' then .plain else .single false

/-- How a line of the file ends: with its quoting, or in a comment that starts after some
characters. -/
inductive LineEnd where
  | within (q : Quoting)
  | comment (before : List Char)

/-- Follows the quoting through a line; `seen` is what came before, last first. -/
def lineEnd (q : Quoting) (seen : List Char) : List Char → LineEnd
  | [] => .within q
  | c :: cs =>
    if q = .blank && c = '#' then .comment seen.reverse else lineEnd (q.step c) (c :: seen) cs

/-- The lines of a file, each with its line break. -/
def physicalLines : List Char → List (List Char)
  | [] => []
  | '\n' :: cs => ['\n'] :: physicalLines cs
  | c :: cs =>
    match physicalLines cs with
    | [] => [[c]]
    | l :: ls => (c :: l) :: ls

/-- A line without its line break. -/
def withoutBreak (cs : List Char) : List Char :=
  match cs.reverse with
  | '\n' :: '\r' :: rest => rest.reverse
  | '\n' :: rest => rest.reverse
  | _ => cs

/-- Joins lines whose quotes are open at their end with the lines after them. `started` is the
part of a line that has been read already. The last line is none if its quotes stay open. -/
def joinLines (q : Quoting) (started : List Char) : List (List Char) → List (Option (List Char))
  | [] => if q = .plain then [] else [none]
  | l :: ls =>
    let line := started ++ l
    if (line.dropWhile Text.isBlank).head? = some '#' then some [] :: joinLines .plain [] ls
    else
      match lineEnd q [] l with
      | .comment before => some (started ++ before) :: joinLines .plain [] ls
      | .within .plain => some (withoutBreak line) :: joinLines .plain [] ls
      | .within q => joinLines q line ls

/-- The lines of a file, quoted line breaks aside. -/
def logicalLines (cs : List Char) : List (Option (List Char)) :=
  joinLines .plain [] (physicalLines cs)

/-! ### Values -/

/-- What the characters of a value stand in. -/
inductive Mode where
  /-- Outside quotes and names. -/
  | plain
  /-- Behind the value, where only a comment may follow. -/
  | ended
  /-- Inside single quotes. -/
  | single
  /-- Inside double quotes. -/
  | double
  /-- Behind a backslash; `inDouble` tells whether inside double quotes. -/
  | escape (inDouble : Bool)
  /-- Inside the name of a variable, whose characters are kept last first. -/
  | name (inDouble : Bool) (seen : List Char)
  /-- The same, in braces. -/
  | braced (inDouble : Bool) (seen : List Char)

/-- The mode outside escapes and names. -/
def Mode.resume (inDouble : Bool) : Mode := if inDouble then .double else .plain

/-- What a name between `$` and its end stands for. The environment is a list of entries
`name=value`, and a name stands for what follows it and an equals sign in such an entry. So a name
that holds an equals sign itself reaches into the value of a variable. -/
def value? (env : Environment) (name : List Char) : Option (List Char) :=
  match name.dropWhile (· ≠ '=') with
  | [] => (env.get? (String.ofList name)).map String.toList
  | _ :: front =>
    (env.get? (String.ofList (name.takeWhile (· ≠ '=')))).bind fun value =>
      (front ++ ['=']).isPrefixOf? value.toList

/-- The text that takes the place of a name, which is given last character first. -/
def lookUp (env : Environment) (seen : List Char) : List Char :=
  (value? env seen.reverse).getD []

/-- Reads a value; `out` is what has been read of it, last first. -/
def readValue (env : Environment) (mode : Mode) (out : List Char) :
    List Char → Option (List Char)
  | [] =>
    match mode with
    | .single => none
    | .double => none
    | .escape true => none
    | .braced _ _ => none
    | .name true _ => none
    | .name false seen => some (out.reverse ++ lookUp env seen)
    | _ => some out.reverse
  | c :: cs =>
    match mode with
    | .ended =>
      if c = ' ' || c = '\t' then readValue env .ended out cs
      else if c = '#' then some out.reverse
      else none
    | .escape inDouble =>
      if c = '\\' || c = '\'' || c = '"' || c = '$' || c = ' ' then
        readValue env (.resume inDouble) (c :: out) cs
      else if c = 'n' then readValue env (.resume inDouble) ('\n' :: out) cs
      else none
    | .single =>
      if c = '\'' then readValue env .plain out cs else readValue env .single (c :: out) cs
    | .name inDouble seen =>
      if Text.isAlphanumeric c then readValue env (.name inDouble (c :: seen)) out cs
      else if c = '\x7b' && seen.isEmpty then readValue env (.braced inDouble []) out cs
      else
        let out := (lookUp env seen).reverse ++ out
        if c = '$' then readValue env (.name inDouble []) out cs
        else readValue env (.resume inDouble) (c :: out) cs
    | .braced inDouble seen =>
      if c = '\x7d' then
        readValue env (.resume inDouble) ((lookUp env seen).reverse ++ out) cs
      else readValue env (.braced inDouble (c :: seen)) out cs
    | .double =>
      if c = '$' then readValue env (.name true []) out cs
      else if c = '"' then readValue env .plain out cs
      else if c = '\\' then readValue env (.escape true) out cs
      else readValue env .double (c :: out) cs
    | .plain =>
      if c = '$' then readValue env (.name false []) out cs
      else if c = '\'' then readValue env .single out cs
      else if c = '"' then readValue env .double out cs
      else if c = '\\' then readValue env (.escape false) out cs
      else if c = ' ' || c = '\t' then readValue env .ended out cs
      else readValue env .plain (c :: out) cs

/-! ### Names -/

/-- The texts in braces. -/
def braced : List Char → List (List Char)
  | [] => []
  | c :: cs =>
    if c = '\x7b' then cs.takeWhile (· ≠ '\x7d') :: braced cs else braced cs

/-- Names that include all of the variables that a file sets or names. -/
def mentioned (text : String) : List String :=
  let isNameChar := fun c => Text.isAlphanumeric c || c == '_' || c == '.'
  let letters := text.toList.splitOnP fun c => !Text.isAlphanumeric c
  let words := text.toList.splitOnP fun c => !isNameChar c
  let inBraces := (braced text.toList).map (·.takeWhile fun c => c ≠ '=' && c ≠ '\x00')
  (letters ++ words ++ inBraces).map String.ofList

/-! ### Assignments -/

/-- The name of a variable at the front of a text, and what follows it and its blanks. -/
def takeName (cs : List Char) : Option (List Char × List Char) :=
  let isNameChar := fun (c : Char) => c.isAlphanum || c == '_' || c == '.'
  match cs with
  | [] => none
  | c :: _ =>
    if c.isAlpha || c == '_' then
      some (cs.takeWhile isNameChar, (cs.dropWhile isNameChar).dropWhile Text.isBlank)
    else none

/-- What a line says. -/
inductive Line where
  /-- Nothing. -/
  | nothing
  | assignment (name value : String)
  /-- Something that cannot be read. -/
  | unreadable

/-- The assignment of a name and the text after its equals sign. -/
def assign (env : Environment) (name : List Char) (cs : List Char) : Line :=
  let cs := cs.dropWhile Text.isBlank
  if cs.isEmpty || cs.head? = some '#' then .assignment (String.ofList name) ""
  else
    match readValue env .plain [] cs with
    | some value => .assignment (String.ofList name) (String.ofList value)
    | none => .unreadable

/-- What a line says. The word `export` may stand before the name, and blanks at the ends of the
line do not count, even where a backslash or a dollar sign stands before them. -/
def assignment (env : Environment) (line : List Char) : Line :=
  let cs := Text.trim line
  if cs.isEmpty || cs.head? = some '#' then .nothing
  else
    match takeName cs with
    | none => .unreadable
    | some (name, '=' :: rest) => assign env name rest
    | some (name, rest) =>
      if name = ['e', 'x', 'p', 'o', 'r', 't'] then
        match takeName rest with
        | some (name, '=' :: rest) => assign env name rest
        | _ => .unreadable
      else .unreadable

/-- Gives a variable its value, unless the environment has the variable already. -/
def define (env : Environment) (name value : String) : Except EnvFileError Environment :=
  if env.contains name then .ok env
  else if '\x00' ∈ value.toList then .error (.impossibleValue name)
  else .ok (env.insert name value)

/-- The environment after some lines. Each line sees the variables that the lines before it have
set. -/
def loadLines (env : Environment) :
    List (Option (List Char)) → Except EnvFileError Environment
  | [] => .ok env
  | none :: _ => .ok env
  | some line :: ls =>
    match assignment env line with
    | .nothing => loadLines env ls
    | .unreadable => .ok env
    | .assignment name value => (define env name value).bind fun env => loadLines env ls

/-- The environment after a file. A byte-order mark at its start is passed over. -/
def load (env : Environment) (text : String) : Except EnvFileError Environment :=
  let cs := text.toList
  loadLines env (logicalLines (if cs.head? = some '\ufeff' then cs.drop 1 else cs))

end EnvFile

end PropertyFilter
