import JobQuery.Cli.Scan

/-!
# Programs with commands

A program has a name, a version, a description, global options (taken before or after the
command's name) and commands. Its command line is the program's own options, then one
command's name, then that command's options and arguments. Every level also takes
`-h`/`--help`; the program itself takes `-V`/`--version`; and a `help` command prints the
help page of the commands named after it.

Reading a command line gives the command's name and the values given, a value given to the
command winning over one given to the program; or a reason to stop: a help page, the
version, or an error.
-/

namespace JobQuery.Cli

/-- A command of a program: its own options and positional arguments. -/
structure CommandSpec where
  name : String
  about : String
  options : List OptSpec := []
  positionals : List PosSpec := []
  deriving Repr, Inhabited

/-- A program with commands. -/
structure Program where
  name : String
  version : String
  about : String
  /-- Options every level takes. -/
  globals : List OptSpec := []
  commands : List CommandSpec
  deriving Repr, Inhabited

/-- A command line that was read: the command and the values given. -/
structure Parsed where
  command : String
  values : List (String × ArgValue)
  deriving Repr, Inhabited

/-- The flag that asks for a help page. -/
def helpFlag : OptSpec :=
  { id := "help", long := some "help", short := some 'h', action := .help, help := "Print help" }

/-- The flag that asks for the version. -/
def versionFlag : OptSpec :=
  { id := "version", long := some "version", short := some 'V', action := .version
    help := "Print version" }

/-- What the `help` command is. -/
def helpAbout : String := "Print this message or the help of the given subcommand(s)"

namespace Program

/-- The program's own level. -/
def rootLevel (p : Program) : Level :=
  { usageName := p.name
    about := p.about
    options := p.globals ++ [helpFlag, versionFlag]
    positionals := []
    commands := p.commands.map (fun c => (c.name, c.about)) ++ [("help", helpAbout)]
    helpWhenEmpty := true }

/-- The level of one of its commands. -/
def commandLevel (p : Program) (c : CommandSpec) : Level :=
  { usageName := p.name ++ " " ++ c.name
    about := c.about
    options := c.options ++ p.globals ++ [helpFlag]
    positionals := c.positionals }

/-- The level of the `help` command. -/
def helpLevel (p : Program) : Level :=
  { usageName := p.name ++ " help"
    about := helpAbout
    options := []
    positionals := [{ id := "subcommand", valueName := "COMMAND", required := false, many := true
                      help := "Print help for the subcommand(s)" }]
    hasHelpFlag := false }

/-- The levels of the commands, by name (the `help` command last). -/
def levels (p : Program) : List (String × Level) :=
  p.commands.map (fun c => (c.name, p.commandLevel c)) ++ [("help", p.helpLevel)]

/-- What the version flag prints. -/
def versionText (p : Program) : String := p.name ++ " " ++ p.version ++ "\n"

/-- The help page of the commands named by `names`, one inside the other. -/
def helpFor (p : Program) (names : List String) : Stop :=
  let rec walk (l : Level) (nested : List (String × Level)) : List String → Stop
    | [] => .help l.helpPage
    | n :: rest =>
      match nested.lookup n with
      | some inner => walk inner [] rest
      | none => .refused
          { message := "unrecognized subcommand '" ++ n ++ "'"
            usage := some (l.usage [])
            pointsToHelp := l.hasHelpFlag }
  walk p.rootLevel p.levels names

/-- Read a command line (without the program's name). -/
def read (p : Program) (args : List String) : Except Stop Parsed := do
  let root := p.rootLevel
  match scanLevel root p.levels p.versionText args {} with
  | .stopped s => throw s
  | .helpCommand rest => throw (p.helpFor rest)
  | .done r =>
    let _ ← finishLevel root r
    throw (.refused { message := "a command is required", usage := some (root.usage []) })
  | .command r name rest =>
    let some level := p.levels.lookup name
      | throw (.refused (unexpectedWord root r name))
    let inner ← match scanLevel level [] p.versionText rest {} with
      | .done r => finishLevel level r
      | .stopped s => throw s
      | .helpCommand _ | .command _ _ _ => finishLevel level {}
    let outer ← r.settle root
    let values := outer.values.filter (fun (k, _) => !inner.values.any (·.1 == k)) ++ inner.values
    return { command := name, values }

end Program

namespace Parsed

/-- The text given to an option or argument. -/
def text? (p : Parsed) (id : String) : Option String :=
  match p.values.lookup id with
  | some (.text s) => some s
  | _ => none

/-- The number given to an option or argument. -/
def number? (p : Parsed) (id : String) : Option Int :=
  match p.values.lookup id with
  | some (.number n) => some n
  | _ => none

end Parsed

end JobQuery.Cli
