/-! # Invocations

What the arguments of the program ask for. The program has one group of commands, `config`, with
three commands in it, and each level takes flags of its own: `--version` and `--help` are known at
every level, the other options only to the commands they belong to.

Arguments are read from left to right, and the first one that is wrong or asks for help ends the
reading. An option's value is the next argument or follows an equals sign; a value that is an
argument of its own must not look like a flag. After a `--` no argument is a flag or a command.

## What it stands for

`Invocation.ofArgs?` stands for the parser that the argument library `clap` makes from the
declarations of the program's commands. What is relied on is documented behaviour of that library:
the rules just given, that an option or a flag may be given once, that a path may not be empty, and
that asking for help or for the version makes nothing else happen. The texts in which the library
explains itself are its own and are not modelled; `Invocation.usage` is there in their place.
-/

namespace TrustRouter

/-- The form in which a result is printed. -/
inductive OutputFormat where
  | json
  | text
deriving DecidableEq

/-- The format a word stands for. -/
def OutputFormat.ofLabel? (word : String) : Option OutputFormat :=
  if word = "json" then some json
  else if word = "text" then some text
  else none

/-- What can be done with a directory of configuration files. -/
inductive Command where
  /-- Make a pass over the directory as a server would, and say whether it is valid. -/
  | validate (dir : String) (auditLog : Option String) (format : OutputFormat)
  /-- Print the configuration. -/
  | summary (dir : String) (format : OutputFormat)
  /-- List the files that a pass would read, in order. -/
  | files (dir : String)
deriving DecidableEq

/-- What the program is asked to do. -/
inductive Invocation where
  | version
  | help
  /-- No command is given. -/
  | idle
  | run (command : Command)
deriving DecidableEq

namespace Invocation

/-- Why the reading of arguments ends early. -/
inductive Stop where
  | help
  /-- The arguments do not make an invocation. -/
  | usage
deriving DecidableEq

/-! ### Arguments -/

/-- Whether an argument looks like a flag. A dash alone does not. -/
def isFlag (arg : String) : Bool := arg.startsWith "-" && arg != "-"

/-- Whether a flag asks for help: by its long name, or as the first of a run of short ones. -/
def asksForHelp (arg : String) : Bool := arg = "--help" || arg.startsWith "-h"

/-- Splits an option from a value that follows an equals sign. -/
def splitOption (arg : String) : String × Option String :=
  let cs := arg.toList
  match cs.dropWhile (· ≠ '=') with
  | [] => (arg, none)
  | _ :: value => (String.ofList (cs.takeWhile (· ≠ '=')), some (String.ofList value))

/-! ### One command -/

/-- The name of a command. -/
inductive Verb where
  | validate
  | summary
  | files
deriving DecidableEq

/-- The verb a word stands for. -/
def Verb.ofLabel? (word : String) : Option Verb :=
  if word = "validate" then some validate
  else if word = "show" then some summary
  else if word = "files" then some files
  else none

/-- What the arguments of a command have given so far. -/
structure Given where
  version : Bool := false
  dir : Option String := none
  auditLog : Option String := none
  format : Option OutputFormat := none

namespace Given

/-- Takes the version flag, which may be given once. -/
def addVersion (g : Given) : Except Stop Given :=
  if g.version then .error .usage else .ok { g with version := true }

/-- Takes the directory, of which there is one and which is not empty. -/
def addDir (g : Given) (dir : String) : Except Stop Given :=
  if g.dir.isSome || dir.isEmpty then .error .usage else .ok { g with dir := some dir }

/-- Takes an option with its value. An option may be given once, and not every verb has it. -/
def addOption (g : Given) (verb : Verb) (name value : String) : Except Stop Given :=
  if name = "--format" ∧ verb ≠ .files ∧ g.format.isNone then
    match OutputFormat.ofLabel? value with
    | some format => .ok { g with format := some format }
    | none => .error .usage
  else if name = "--audit-log" ∧ verb = .validate ∧ g.auditLog.isNone ∧ value ≠ "" then
    .ok { g with auditLog := some value }
  else .error .usage

/-- The command given, if there is a directory for it. -/
def command (g : Given) (verb : Verb) : Except Stop Command :=
  match g.dir with
  | none => .error .usage
  | some dir =>
    .ok <| match verb with
      | .validate => .validate dir g.auditLog (g.format.getD .text)
      | .summary => .summary dir (g.format.getD .json)
      | .files => .files dir

/-- Takes the arguments of a command. -/
def addAll (verb : Verb) (g : Given) : List String → Except Stop Given
  | [] => .ok g
  | arg :: rest =>
    if arg = "--" then rest.foldlM addDir g
    else if !isFlag arg then do addAll verb (← g.addDir arg) rest
    else if asksForHelp arg then .error .help
    else if arg = "--version" then do addAll verb (← g.addVersion) rest
    else
      match splitOption arg, rest with
      | (name, some value), rest => do addAll verb (← g.addOption verb name value) rest
      | (_, none), [] => .error .usage
      | (name, none), value :: rest =>
        if isFlag value then .error .usage
        else do addAll verb (← g.addOption verb name value) rest

end Given

/-! ### The levels above -/

/-- The invocation of a command, unless only the version is asked for. -/
def ofCommand (version : Bool) (verb : Verb) (args : List String) : Except Stop Invocation := do
  let given ← Given.addAll verb {} args
  let command ← given.command verb
  return if version || given.version then .version else .run command

/-- Reads the arguments after `config`: `above` says whether the version was asked for before it,
`here` whether it was since. -/
def ofGroup (above here : Bool) : List String → Except Stop Invocation
  | [] => .error .usage
  | arg :: rest =>
    if arg = "--version" then
      if here then .error .usage else ofGroup above true rest
    else if asksForHelp arg then .error .help
    else
      match Verb.ofLabel? arg with
      | some verb => ofCommand (above || here) verb rest
      | none => .error .usage

/-- Reads all arguments: `version` says whether the version was asked for. -/
def ofRoot (version : Bool) : List String → Except Stop Invocation
  | [] => .ok (if version then .version else .idle)
  | arg :: rest =>
    if arg = "--" ∧ rest = [] then .ok (if version then .version else .idle)
    else if arg = "--version" then
      if version then .error .usage else ofRoot true rest
    else if asksForHelp arg then .error .help
    else if arg = "config" then ofGroup version false rest
    else .error .usage

/-- The invocation that the arguments make, if they make one. -/
def ofArgs? (args : List String) : Option Invocation :=
  match ofRoot false args with
  | .ok invocation => some invocation
  | .error .help => some .help
  | .error .usage => none

end Invocation

end TrustRouter
