import JobQuery.Cli.Grammar
import JobQuery.Cli.Similarity

/-!
# Reading one level of a command line

The words of a command line are read left to right against one level (the program, or one
of its commands):

* the name of a command (when the level has commands, and no option is waiting for its
  value) ends the level: the rest belongs to the command; `help` asks for a help page;
* `--` makes every later word positional;
* `--name`, `--name=value`, `-x`, `-xvalue` and `-x=value` are options; an option that takes
  a value and has none attached takes the next word, whatever it looks like, unless it looks
  like an option itself;
* any other word is the next positional argument.

The words of an option or argument are read into a value only when the next option or
argument starts (or the words run out), so a refused value is reported then. A flag that
asks for help or the version stops the reading at once, once the words before it are read.

Errors carry what the message needs: the usage line, similar names, tips. An unknown long
option points at the most similar long name of the level, else at a command further on the
line that has one; a word where a command is expected points at similar command names.
-/

namespace JobQuery.Cli

/-- A command line the program refuses: the parts of its message. -/
structure ArgError where
  /-- What is wrong. -/
  message : String
  /-- Similar names, with what they are (`subcommand`, `argument`, `value`). -/
  similar : Option (String × List String) := none
  /-- Further tips, one a line. -/
  tips : List String := []
  /-- The usage line of the level concerned. -/
  usage : Option String := none
  /-- Whether the message ends by pointing at `--help`. -/
  pointsToHelp : Bool := true
  deriving Repr, Inhabited

/-- Names quoted and separated by commas. -/
def quotedList (names : List String) : String :=
  String.intercalate ", " (names.map fun n => "'" ++ n ++ "'")

/-- The message of a refused command line, ending with a newline. -/
def ArgError.render (e : ArgError) : String :=
  let similar := match e.similar with
    | none => ""
    | some (what, [n]) => "\n\n  tip: a similar " ++ what ++ " exists: '" ++ n ++ "'"
    | some (what, names) => "\n\n  tip: some similar " ++ what ++ "s exist: " ++ quotedList names
  let tips :=
    if e.tips.isEmpty then ""
    else (if e.similar.isSome then "" else "\n") ++ String.join (e.tips.map ("\n  tip: " ++ ·))
  let usage := match e.usage with
    | some u => "\n\nUsage: " ++ u
    | none => ""
  "error: " ++ e.message ++ similar ++ tips ++ usage ++
    (if e.pointsToHelp then "\n\nFor more information, try '--help'.\n" else "\n")

/-- Why the reading of a command line stopped before a command could run. -/
inductive Stop where
  /-- The help page was asked for. -/
  | help (page : String)
  /-- The version was asked for. -/
  | version (text : String)
  /-- Nothing was given: the help page is shown instead of running. -/
  | helpInstead (page : String)
  /-- The command line was refused. -/
  | refused (e : ArgError)
  deriving Repr, Inhabited

-- ---------------------------------------------------------------------------
-- Values
-- ---------------------------------------------------------------------------

/-- Why a value was refused. -/
inductive ValueFault where
  /-- No text where some is needed. -/
  | empty
  /-- The text does not read as a value of its kind. -/
  | invalid (reason : String)
  /-- The text names none of the choices. -/
  | notAChoice
  deriving Repr, Inhabited

/-- Decimal digits read left to right into a number that must stay at most `limit`; the
first fault met wins. -/
def readDigits (limit : Nat) (tooBig : String) : List Char → Nat → Except String Nat
  | [], n => .ok n
  | c :: rest, n =>
    if c.isDigit then
      let n := n * 10 + (c.toNat - 48)
      if n > limit then .error tooBig else readDigits limit tooBig rest n
    else .error "invalid digit found in string"

/-- An integer of a machine type in `[-low, high]`, in decimal with an optional sign (a
minus only when `low > 0`). -/
def readInteger (low high : Nat) (s : String) : Except String Int :=
  match s.toList with
  | [] => .error "cannot parse integer from empty string"
  | ['+'] | ['-'] => .error "invalid digit found in string"
  | '+' :: ds => (readDigits high "number too large to fit in target type" ds 0).map Int.ofNat
  | '-' :: ds =>
    if low = 0 then .error "invalid digit found in string"
    else (readDigits low "number too small to fit in target type" ds 0).map fun n => -(n : Int)
  | ds => (readDigits high "number too large to fit in target type" ds 0).map Int.ofNat

/-- Read the text of an option or argument as a value of its kind. -/
def ValueKind.read (k : ValueKind) (s : String) : Except ValueFault ArgValue :=
  match k with
  | .text => .ok (.text s)
  | .path => if s.isEmpty then .error .empty else .ok (.text s)
  | .word =>
    match readInteger 0 (Nat.pow 2 64 - 1) s with
    | .ok n => .ok (.number n)
    | .error why => .error (.invalid why)
  | .ranged lo hi =>
    match readInteger (Nat.pow 2 63) (Nat.pow 2 63 - 1) s with
    | .ok n =>
      if lo ≤ n && n ≤ hi then .ok (.number n)
      else .error (.invalid (toString n ++ " is not in " ++ toString lo ++ "..=" ++ toString hi))
    | .error why => .error (.invalid why)
  | .choice names => if names.contains s then .ok (.text s) else .error .notAChoice

/-- The message of a refused value of the option or argument shown as `shown`. -/
def valueError (shown : String) (choices : List String) (given : String) : ValueFault → ArgError
  | .empty => { message := "a value is required for '" ++ shown ++ "' but none was supplied" ++
      possibleValues choices }
  | .invalid why => { message := "invalid value '" ++ given ++ "' for '" ++ shown ++ "': " ++ why }
  | .notAChoice =>
    { message :=
        (if given.isEmpty then "a value is required for '" ++ shown ++ "' but none was supplied"
         else "invalid value '" ++ given ++ "' for '" ++ shown ++ "'") ++ possibleValues choices
      similar := (closestName given choices).map fun n => ("value", [n]) }
where
  possibleValues : List String → String
    | [] => ""
    | names => "\n  [possible values: " ++ String.intercalate ", " names ++ "]"

-- ---------------------------------------------------------------------------
-- Reading a level
-- ---------------------------------------------------------------------------

/-- What collects words: an option, or a positional argument. -/
inductive Target where
  | option (o : OptSpec)
  | positional (p : PosSpec)
  deriving Repr, Inhabited

namespace Target

/-- The id of the option or argument. -/
def id : Target → String
  | .option o => o.id
  | .positional p => p.id

/-- How messages name it. -/
def display : Target → String
  | .option o => o.display
  | .positional p => p.display

/-- The kind of its value. -/
def kind : Target → ValueKind
  | .option o => match o.action with
    | .set _ k => k
    | _ => .text
  | .positional p => p.kind

/-- The choices it accepts, if it is a choice. -/
def choices (t : Target) : List String :=
  match t.kind with
  | .choice names => names
  | _ => []

end Target

/-- What is read so far at one level. -/
structure Reading where
  /-- The options and arguments given, in the order they were taken (a refused value still
  counts as given). -/
  given : List String := []
  /-- The values read. -/
  values : List (String × ArgValue) := []
  /-- An option or argument whose words are collected but not yet read. -/
  pending : Option (Target × List String) := none
  /-- The index of the next positional argument. -/
  position : Nat := 0
  /-- Whether `--` was seen. -/
  escaped : Bool := false
  /-- Whether the last word was an option waiting for its value. -/
  awaiting : Bool := false
  deriving Repr, Inhabited

namespace Reading

/-- Read the pending words, if any: the reading afterwards, and the error if the words are
refused (the reading then holds what the refusal left). -/
def settleWith (l : Level) (r : Reading) : Reading × Option ArgError :=
  match r.pending with
  | none => (r, none)
  | some (t, words) =>
    let r := { r with pending := none }
    match words with
    | [] => (r, some (valueError t.display t.choices "" .empty))
    | w :: _ =>
      if r.given.contains t.id then
        ({ r with given := r.given.erase t.id },
          some { message := "the argument '" ++ t.display ++ "' cannot be used multiple times"
                 usage := some (l.usage []) })
      else
        let r := { r with given := r.given ++ [t.id] }
        match t.kind.read w with
        | .ok v => ({ r with values := r.values ++ [(t.id, v)] }, none)
        | .error fault => (r, some (valueError t.display t.choices w fault))

/-- Read the pending words; a refusal stops the reading. -/
def settle (l : Level) (r : Reading) : Except Stop Reading :=
  match r.settleWith l with
  | (r, none) => .ok r
  | (_, some e) => .error (.refused e)

/-- The given options and arguments that are not required ones. -/
def optional (l : Level) (r : Reading) : List String :=
  r.given.filter fun id => !l.requiredIds.contains id

end Reading

/-- How the reading of a level ended. -/
inductive LevelEnd where
  /-- The words ran out. -/
  | done (r : Reading)
  /-- A command was named: the reading so far, its name, and the words after it. -/
  | command (r : Reading) (name : String) (rest : List String)
  /-- The `help` command was named: the words after it. -/
  | helpCommand (rest : List String)
  /-- The reading stopped. -/
  | stopped (s : Stop)
  deriving Inhabited

/-- The suggestion for an unknown long option: a long name of the level, or a long name of
a command named further on the line (the nearest one). -/
def suggestLong (l : Level) (others : List (String × Level)) (name : String)
    (rest : List String) : Option (String × Option String) :=
  match closestName name (l.options.filterMap (·.long)) with
  | some n => some (n, none)
  | none =>
    let found := others.filterMap fun (cmd, lvl) =>
      match closestName name (lvl.options.filterMap (·.long)), rest.idxOf? cmd with
      | some n, some pos => some (pos, n, cmd)
      | _, _ => none
    let best := found.foldl (fun acc x => match acc with
      | none => some x
      | some y => if x.1 < y.1 then some x else some y) none
    best.map fun (_, n, cmd) => (n, some cmd)

/-- The error for an unknown long option `--name`. -/
def unknownLong (l : Level) (others : List (String × Level)) (r : Reading) (name : String)
    (rest : List String) : ArgError :=
  let suggestion := suggestLong l others name rest
  let r := match suggestion with
    | some (n, none) =>
      match l.findLong n with
      | some o => if r.given.contains o.id then r else { r with given := r.given ++ [o.id] }
      | none => r
    | _ => r
  let shown := "--" ++ name
  let dashTip := suggestion.isNone && !r.escaped && !l.positionals.isEmpty
  let tips := (if dashTip then ["to pass '" ++ shown ++ "' as a value, use '-- " ++ shown ++ "'"]
      else []) ++
    (match suggestion with
      | some (n, some cmd) => ["'" ++ cmd ++ " --" ++ n ++ "' exists"]
      | _ => [])
  { message := "unexpected argument '" ++ shown ++ "' found"
    similar := match suggestion with
      | some (n, none) => some ("argument", ["--" ++ n])
      | _ => none
    tips
    usage := some (l.usage r.given) }

/-- The error for a word that fits no positional argument. -/
def unexpectedWord (l : Level) (r : Reading) (w : String) : ArgError :=
  if r.escaped && l.commands.any (·.1 == w) then
    { message := "unexpected argument '" ++ w ++ "' found"
      tips := ["subcommand '" ++ w ++ "' exists; to use it, remove the '--' before it"]
      usage := some (l.usage []) }
  else if l.commands.isEmpty then
    { message := "unexpected argument '" ++ w ++ "' found", usage := some (l.usage []) }
  else
    let similar := similarNames w (l.commands.map Prod.fst)
    { message := "unrecognized subcommand '" ++ w ++ "'"
      similar := if similar.isEmpty then none else some ("subcommand", similar)
      usage := some (l.usage []) }

/-- What a flag asks for, once the words before it are read. -/
def flagStop (l : Level) (version : String) (o : OptSpec) : Stop :=
  match o.action with
  | .version => .version version
  | _ => .help l.helpPage

/-- Read the words of one level. `others` are the levels of the commands (for suggestions);
`version` is the text the version flag prints. -/
def scanLevel (l : Level) (others : List (String × Level)) (version : String) :
    List String → Reading → LevelEnd
  | [], r => .done r
  | w :: rest, r =>
    if !r.escaped && !r.awaiting && l.commands.any (·.1 == w) then
      if w == "help" then .helpCommand rest else .command r w rest
    else if !r.escaped && w == "--" then
      scanLevel l others version rest { r with escaped := true }
    else if !r.escaped && w.startsWith "--" then
      let body := String.ofList (w.toList.drop 2)
      let name := (body.splitOn "=").headD ""
      let attached := if body.contains '=' then some (String.ofList (body.toList.drop (name.length + 1))) else none
      match l.findLong name with
      | none => .stopped (.refused (unknownLong l others (r.settleWith l).1 name rest))
      | some o =>
        if o.takesValue then
          match r.settle l with
          | .error s => .stopped s
          | .ok r =>
            match attached with
            | some v =>
              match Reading.settle l { r with pending := some (.option o, [v]) } with
              | .error s => .stopped s
              | .ok r => scanLevel l others version rest { r with awaiting := false }
            | none =>
              scanLevel l others version rest
                { r with pending := some (.option o, []), awaiting := true }
        else
          match attached with
          | some v =>
            let used := r.optional l ++ [o.id]
            .stopped (.refused
              { message := "unexpected value '" ++ v ++ "' for '" ++ o.display ++
                  "' found; no more were expected"
                usage := some (l.usage used) })
          | none =>
            match r.settle l with
            | .error s => .stopped s
            | .ok _ => .stopped (flagStop l version o)
    else if !r.escaped && w.startsWith "-" && w != "-" then
      let letters := w.toList.drop 1
      let c := letters.headD ' '
      let after := String.ofList (letters.drop 1)
      match l.findShort c with
      | none =>
        let shown := "-" ++ c.toString
        let dashTip := !r.escaped && !l.positionals.isEmpty
        .stopped (.refused
          { message := "unexpected argument '" ++ shown ++ "' found"
            tips := if dashTip then ["to pass '" ++ shown ++ "' as a value, use '-- " ++ shown ++ "'"]
              else []
            usage := some (l.usage []) })
      | some o =>
        match r.settle l with
        | .error s => .stopped s
        | .ok r =>
          if !o.takesValue then .stopped (flagStop l version o)
          else if after.isEmpty then
            scanLevel l others version rest
              { r with pending := some (.option o, []), awaiting := true }
          else
            let v := if after.startsWith "=" then String.ofList (after.toList.drop 1) else after
            match Reading.settle l { r with pending := some (.option o, [v]) } with
            | .error s => .stopped s
            | .ok r => scanLevel l others version rest { r with awaiting := false }
    else if !r.escaped && r.awaiting then
      let pending := r.pending.map fun (t, ws) => (t, ws ++ [w])
      scanLevel l others version rest { r with pending, awaiting := false }
    else
      match l.positionals[r.position]? with
      | none => .stopped (.refused (unexpectedWord l (r.settleWith l).1 w))
      | some p =>
        match r.settle l with
        | .error s => .stopped s
        | .ok r =>
          scanLevel l others version rest
            { r with pending := some (.positional p, [w]), position := r.position + 1,
                     awaiting := false }

/-- Finish a level whose words ran out: read the pending words, then check that a command
or the required arguments were given. -/
def finishLevel (l : Level) (r : Reading) : Except Stop Reading := do
  let r ← r.settle l
  if l.helpWhenEmpty && r.given.isEmpty then throw (.helpInstead l.helpPage)
  if !l.commands.isEmpty then
    throw (.refused
      { message := "'" ++ l.usageName ++ "' requires a subcommand but one was not provided" ++
          "\n  [subcommands: " ++ String.intercalate ", " (l.commands.map Prod.fst) ++ "]"
        usage := some (l.usage []) })
  let missing := l.requiredIds.filter fun id => !r.given.contains id
  if missing.isEmpty then return r
  let shown := missing.filterMap l.display?
  throw (.refused
    { message := "the following required arguments were not provided:" ++
        String.join (shown.map ("\n  " ++ ·))
      usage := some (l.usage (r.given ++ missing)) })

end JobQuery.Cli
