/-!
# Command-line grammar

A program's command line is described by data: the program's global options, and its
commands, each with its own options and positional arguments. From that description come
the usage lines, the help pages, and (in `Cli.Scan`) the reading of a command line.

## Usage lines

The full usage of a level is its name, `[OPTIONS]` when it has an option other than help and
version, its positional arguments (`<NAME>` when required, `[NAME]` otherwise, `...` after
one that takes every remaining word) and `<COMMAND>` when a command must follow. A usage
line about a command line already read (the *focused* usage) names, instead of `[OPTIONS]`,
the options that were given, and writes every positional argument it names as required.

## Help pages

A help page is the level's description, its full usage, and up to three sections: the
commands, the positional arguments and the options. In each section the descriptions start
in one column, two spaces after the longest entry; an option's entry is its letter (or four
spaces), its long name and its value's name. Options are listed by their place in the
program's description, then by letter or name. Nothing is wrapped: no terminal is assumed.
-/

namespace JobQuery.Cli

/-- How the text given to an option or argument becomes a value. -/
inductive ValueKind where
  /-- Any text. -/
  | text
  /-- A path: any text but the empty one. -/
  | path
  /-- An unsigned 64-bit integer in decimal, with an optional `+`. -/
  | word
  /-- A signed 64-bit integer in decimal that must lie in `[lo, hi]`. -/
  | ranged (lo hi : Int)
  /-- One of a list of names. -/
  | choice (names : List String)
  deriving Repr, Inhabited

/-- A value read from a command line. -/
inductive ArgValue where
  | text (s : String)
  | number (n : Int)
  deriving Repr, BEq, Inhabited

/-- What an option does. -/
inductive OptAction where
  /-- It takes one value, called `valueName` in usage lines. -/
  | set (valueName : String) (kind : ValueKind)
  /-- It asks for the help page. -/
  | help
  /-- It asks for the version. -/
  | version
  deriving Repr, Inhabited

/-- An option: a long name (`--config`), a letter (`-c`), or both. -/
structure OptSpec where
  id : String
  long : Option String := none
  short : Option Char := none
  action : OptAction
  help : String := ""
  /-- Where help pages list it: by this number first. -/
  order : Nat := 999
  deriving Repr, Inhabited

/-- A positional argument. -/
structure PosSpec where
  id : String
  valueName : String
  kind : ValueKind := .text
  help : String := ""
  required : Bool := true
  /-- It takes every remaining word. -/
  many : Bool := false
  deriving Repr, Inhabited

/-- One level of a command line: the program, or one of its commands. -/
structure Level where
  /-- How usage lines name it: the program's name, then the command's. -/
  usageName : String
  about : String
  /-- Its options, in the order their names are compared with an unknown one. -/
  options : List OptSpec
  positionals : List PosSpec
  /-- The commands that may follow (name and description); a command must follow when
  there is any. -/
  commands : List (String × String) := []
  /-- Whether an empty command line shows the help page instead of running. -/
  helpWhenEmpty : Bool := false
  /-- Whether it has a `--help` flag that error messages can point to. -/
  hasHelpFlag : Bool := true
  deriving Repr, Inhabited

/-- The width of a text in a help page: names and entries are ASCII, one column a
character. -/
def displayWidth (s : String) : Nat := s.length

/-- Spaces. -/
def spaces (n : Nat) : String := String.ofList (List.replicate n ' ')

namespace OptSpec

/-- Whether the option takes a value. -/
def takesValue (o : OptSpec) : Bool :=
  match o.action with
  | .set _ _ => true
  | _ => false

/-- The value's part of the option's entry: a space and `<NAME>`. -/
def suffix (o : OptSpec) : String :=
  match o.action with
  | .set name _ => " <" ++ name ++ ">"
  | _ => ""

/-- The option as messages name it: its long name (or letter) and its value. -/
def display (o : OptSpec) : String :=
  let name := match o.long, o.short with
    | some l, _ => "--" ++ l
    | none, some c => "-" ++ c.toString
    | none, none => ""
  name ++ o.suffix

/-- The names of the choices the option accepts. -/
def choices (o : OptSpec) : List String :=
  match o.action with
  | .set _ (.choice names) => names
  | _ => []

/-- The key help pages sort options by: the place, then the letter (lower case first) or
the long name. -/
def sortKey (o : OptSpec) : Nat × String :=
  let key := match o.short, o.long with
    | some c, _ => c.toLower.toString ++ (if c.isLower then "0" else "1")
    | none, some l => l
    | none, none => "\x7b" ++ o.id
  (o.order, key)

/-- The option's entry in a help page, before the padding: letter, long name, value. -/
def entry (o : OptSpec) : String :=
  let letter := match o.short, o.long with
    | some c, _ => "-" ++ c.toString
    | none, some _ => "    "
    | none, none => ""
  let long := match o.long with
    | some l => (if o.short.isSome then ", " else "") ++ "--" ++ l
    | none => ""
  letter ++ long ++ o.suffix

/-- The extra words after the option's description: its possible values. -/
def extra (o : OptSpec) : String :=
  match o.choices with
  | [] => ""
  | names => "[possible values: " ++ String.intercalate ", " names ++ "]"

end OptSpec

namespace PosSpec

/-- The argument as usage lines write it, required or not. -/
def render (p : PosSpec) (required : Bool) : String :=
  (if required then "<" ++ p.valueName ++ ">" else "[" ++ p.valueName ++ "]") ++
    (if p.many then "..." else "")

/-- The argument as messages and help pages name it. -/
def display (p : PosSpec) : String := p.render (p.required && !p.many)

end PosSpec

/-- An option is compared before another in a help page. -/
def optBefore (a b : OptSpec) : Bool :=
  let (oa, ka) := a.sortKey
  let (ob, kb) := b.sortKey
  oa < ob || (oa == ob && decide (ka ≤ kb))

/-- A description followed by extra words, separated by a space when both are there. -/
def withExtra (help extra : String) : String :=
  if extra.isEmpty then help else if help.isEmpty then extra else help ++ " " ++ extra

namespace Level

/-- The option with a long name. -/
def findLong (l : Level) (name : String) : Option OptSpec :=
  l.options.find? (·.long == some name)

/-- The option with a letter. -/
def findShort (l : Level) (c : Char) : Option OptSpec :=
  l.options.find? (·.short == some c)

/-- The option or argument with an id. -/
def display? (l : Level) (id : String) : Option String :=
  match l.options.find? (·.id == id) with
  | some o => some o.display
  | none => (l.positionals.find? (·.id == id)).map PosSpec.display

/-- Whether the full usage shows `[OPTIONS]`: some option besides help and version. -/
def hasOptions (l : Level) : Bool := l.options.any OptSpec.takesValue

/-- The ids of the required positional arguments. -/
def requiredIds (l : Level) : List String :=
  (l.positionals.filter (·.required)).map (·.id)

/-- The positional part of a usage line: the arguments named in `named` as required, the
others as they are. -/
def positionalUsage (l : Level) (named : List String) : List String :=
  l.positionals.map fun p => p.render (named.contains p.id || (p.required && !p.many))

/-- The usage line of the level; with options given (`used`), the focused usage that names
them. -/
def usage (l : Level) (used : List String) : String :=
  let cmd := if l.commands.isEmpty then [] else ["<COMMAND>"]
  let parts :=
    if used.isEmpty then
      (if l.hasOptions then ["[OPTIONS]"] else []) ++ l.positionalUsage [] ++ cmd
    else
      let named := (l.requiredIds ++ used).eraseDups
      let opts := named.filterMap fun id => (l.options.find? (·.id == id)).map OptSpec.display
      opts ++ l.positionalUsage named ++ cmd
  String.intercalate " " (l.usageName :: parts)

/-- One entry of a help section: the entry, padded to the column, then the description. -/
def helpLine (entryText : String) (pad : Nat) (help : String) : String :=
  "  " ++ entryText ++ spaces pad ++ help

/-- The commands section. -/
def commandsSection (l : Level) : List String :=
  let longest := l.commands.foldl (fun m (n, _) => max m (displayWidth n)) 2
  l.commands.map fun (n, about) => helpLine n (longest + 2 - displayWidth n) about

/-- The positional arguments section. -/
def argumentsSection (l : Level) : List String :=
  let longest := l.positionals.foldl (fun m p => max m (displayWidth p.display)) 2
  l.positionals.map fun p =>
    helpLine p.display (longest + 2 - displayWidth p.display) p.help

/-- The options section. -/
def optionsSection (l : Level) : List String :=
  let width := fun (o : OptSpec) => displayWidth o.display + 4
  let counted := l.options.filter fun o => o.takesValue || o.long.isSome || o.short.isNone
  let longest := counted.foldl (fun m o => max m (width o)) 2
  (l.options.mergeSort optBefore).map fun o =>
    let pad := longest + (if o.long.isSome then 2 else 6) - width o
    helpLine o.entry pad (withExtra o.help o.extra)

/-- The help page of the level, ending with a newline. -/
def helpPage (l : Level) : String :=
  let titled := fun (title : String) (lines : List String) =>
    if lines.isEmpty then [] else [title ++ ":\n" ++ String.intercalate "\n" lines]
  let sections := titled "Commands" l.commandsSection ++
    titled "Arguments" l.argumentsSection ++ titled "Options" l.optionsSection
  let head := (if l.about.isEmpty then "" else l.about ++ "\n\n") ++ "Usage: " ++ l.usage []
  let body := String.intercalate "\n\n" (head :: sections)
  String.ofList (body.toList.reverse.dropWhile Char.isWhitespace).reverse ++ "\n"

end Level

end JobQuery.Cli
