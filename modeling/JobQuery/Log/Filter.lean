import JobQuery.Log.Event
import JobQuery.Text.Space
import JobQuery.Unicode.Alphanumeric

/-!
# Log filters

Which events reach the log is set by a list of *directives* separated by commas (empty ones
are skipped). Each directive is read, after white space around it is trimmed, as

* a level (`info`, `DEBUG`, `3`, `off`), which applies to every target;
* a target (`kqx::transport`), which lets everything from the targets that start with it
  through, or `target=level`;
* either of these with a bracketed part after the target or in its place,
  `target[span{field,...}]=level`: a span name and the names of fields (`name=value` asks
  for a value too), each part optional.

The reading is a small automaton over the trimmed text. Its positions are those of the
trimmed text, but the parts it cuts out are taken at those positions of the text as given,
and the last part runs to the end of that text: blanks before a directive shift every part
(` kqx=info` names the target ` kq` and the level `=info`), blanks after it stay in its last
part.

A level is a name in any case or a number from 0 (`off`) to 5 (`trace`), a `+` allowed
before it; an empty level is `trace`. A directive is skipped with a notice when its level is
not one, when it starts with a character that is neither alphanumeric nor one of `- : _ [`,
when anything but `=` follows its closing bracket, when a field name is empty or when its
brackets are not closed.

A directive without a span name and without field values is *static*: it decides on events
by their target and the names of their fields (every event has the field `message`). The
others need spans, which this program never opens, so they let no event through; they still
count as directives.

An event is written when the most specific static directive that covers it lets its level
through: a directive with a longer target comes first (any target before none), then one
with more fields, and of two directives for the same target and fields the later counts. An
event that no static directive covers is not written. With no directive at all, errors alone
are written.
-/

namespace JobQuery

open Text Unicode

/-- A field a directive asks for, with the value it must have, if any. -/
structure FieldMatch where
  name : String
  value : Option String := none
  deriving Repr, BEq, Inhabited

/-- A field of a directive's brackets: its name, then its value after the first `=`. -/
def FieldMatch.parse (s : String) : FieldMatch :=
  match s.splitOn "=" with
  | name :: value :: _ => { name, value := some value }
  | _ => { name := s }

/-- One filter directive. -/
structure Directive where
  /-- The target prefix it covers; `none` covers every target. -/
  target : Option String := none
  /-- The name of the spans it is restricted to. -/
  span : Option String := none
  /-- The fields it asks for. -/
  fields : List FieldMatch := []
  /-- The most verbose level it lets through; `none` lets nothing through. -/
  level : Option Level := some .trace
  deriving Repr, BEq, Inhabited

/-- The value of a decimal numeral with an optional `+`, as a machine-sized number. -/
def readSize (s : String) : Option Nat :=
  let ds := match s.toList with
    | '+' :: rest => rest
    | cs => cs
  if ds.isEmpty || !ds.all Char.isDigit then none
  else
    let n := ds.foldl (fun n c => n * 10 + (c.toNat - 48)) 0
    if n < Nat.pow 2 64 then some n else none

/-- A level as a directive names it: `some (some l)`, `some none` for `off`, `none` when the
text is not a level. -/
def parseLevelName (s : String) : Option (Option Level) :=
  match readSize s with
  | some 0 => some none
  | some 1 => some (some .error)
  | some 2 => some (some .warn)
  | some 3 => some (some .info)
  | some 4 => some (some .debug)
  | some 5 => some (some .trace)
  | _ =>
    match s.toLower with
    | "" | "error" => some (some .error)
    | "warn" => some (some .warn)
    | "info" => some (some .info)
    | "debug" => some (some .debug)
    | "trace" => some (some .trace)
    | "off" => some none
    | _ => none

/-- The notice of a level that is not one. -/
def badLevelNotice : String :=
  "error parsing level filter: expected one of \"off\", \"error\", \"warn\", \"info\", " ++
    "\"debug\", \"trace\", or a number 0-5"

/-- The notice of a directive that cannot be read otherwise. -/
def badDirectiveNotice : String := "invalid filter directive"

/-- Where the reading of a directive stands; a position is the byte offset where the part
being read starts. -/
inductive DirectiveState where
  | start
  | levelOrTarget (start : Nat)
  | span (start : Nat)
  | field (start : Nat)
  | fields
  | target
  | level (start : Nat)
  deriving Repr, BEq, Inhabited

/-- A directive being read: where the reading stands and the parts found so far. -/
structure DirectiveReading where
  state : DirectiveState := .start
  directive : Directive := {}
  deriving Repr, Inhabited

/-- Whether a character may start a target or a level. -/
def startsName (c : Char) : Bool := c == '-' || c == ':' || c == '_' || isAlphanumeric c

/-- Read one more character, at byte offset `i`; `cut a b` is the part of the text from
offset `a` to offset `b`. -/
def DirectiveReading.step (cut : Nat → Nat → String) (r : DirectiveReading) :
    Nat × Char → Except String DirectiveReading
  | (i, c) =>
    let d := r.directive
    match r.state with
    | .start =>
      if c == '[' then .ok { r with state := .span (i + 1) }
      else if startsName c then .ok { r with state := .levelOrTarget i }
      else .error badDirectiveNotice
    | .levelOrTarget s =>
      if c == '=' then
        .ok { state := .level (i + 1), directive := { d with target := some (cut s i) } }
      else if c == '[' then
        .ok { state := .span (i + 1), directive := { d with target := some (cut s i) } }
      else .ok r
    | .target =>
      if c == '=' then .ok { r with state := .level (i + 1) } else .error badDirectiveNotice
    | .span s =>
      if c == ']' then .ok { state := .target, directive := { d with span := some (cut s i) } }
      else if c == '\x7b' then
        let name := cut s i
        .ok { state := .field (i + 1),
              directive := { d with span := if name.isEmpty then none else some name } }
      else .ok r
    | .field s =>
      if c == '\x7d' then
        let text := cut s i
        if text.isEmpty then .error badDirectiveNotice
        else .ok { state := .fields,
                   directive := { d with fields := d.fields ++ [FieldMatch.parse text] } }
      else .ok r
    | .fields => if c == ']' then .ok { r with state := .target } else .error badDirectiveNotice
    | .level _ => .ok r

/-- The directive once every character is read; `rest a` is the text from offset `a` on. -/
def DirectiveReading.finish (rest : Nat → String) (r : DirectiveReading) :
    Except String Directive :=
  let d := r.directive
  match r.state with
  | .levelOrTarget s =>
    let text := rest s
    if text.isEmpty then .ok { d with level := some .trace, target := none }
    else match parseLevelName text with
      | some l => .ok { d with level := l, target := none }
      | none => .ok { d with level := some .trace, target := some text }
  | .level s =>
    let text := rest s
    if text.isEmpty then .ok { d with level := some .trace }
    else match parseLevelName text with
      | some l => .ok { d with level := l }
      | none => .error badLevelNotice
  | .target => .ok d
  | _ => .error badDirectiveNotice

/-- The characters of a text with their byte offsets, counted from `i`. -/
def withOffsets : Nat → List Char → List (Nat × Char)
  | _, [] => []
  | i, c :: rest => (i, c) :: withOffsets (i + c.utf8Size) rest

/-- Read one directive (a text without commas): the directive, or the notice that says why
it is skipped. -/
def Directive.read (s : String) : Except String Directive := do
  let bytes := s.toUTF8
  let cut := fun (a b : Nat) => (String.fromUTF8? (bytes.extract a b)).getD ""
  let trimmed := ((s.toList.dropWhile isSpace).reverse.dropWhile isSpace).reverse
  let r ← (withOffsets 0 trimmed).foldlM (DirectiveReading.step cut) {}
  r.finish fun a => cut a bytes.size

/-- Whether a directive decides on events by target and field names alone. -/
def Directive.isStatic (d : Directive) : Bool :=
  d.span.isNone && d.fields.all (·.value.isNone)

/-- Whether a static directive covers an event of a target with these field names. -/
def Directive.covers (d : Directive) (target : String) (names : List String) : Bool :=
  d.isStatic && (d.target.all (·.isPrefixOf target)) && d.fields.all (names.contains ·.name)

/-- Whether one list of names comes before another, comparing name by name. -/
def namesBefore : List String → List String → Bool
  | [], [] => false
  | [], _ :: _ => true
  | _ :: _, [] => false
  | a :: as, b :: bs => if a < b then true else if b < a then false else namesBefore as bs

/-- Whether a directive read after another one takes its place for the events both cover:
it has the longer target, or as long a target and more fields, or the same number of
fields whose names do not come before the other's. -/
def Directive.supersedes (d e : Directive) : Bool :=
  let tl := fun (x : Directive) => (x.target.map (·.utf8ByteSize + 1)).getD 0
  tl d > tl e || (tl d == tl e && (d.fields.length > e.fields.length ||
    (d.fields.length == e.fields.length &&
      !namesBefore (d.fields.map (·.name)) (e.fields.map (·.name)))))

/-- A log filter. -/
structure LogFilter where
  directives : List Directive
  deriving Repr, Inhabited

/-- The filter a directive list describes. -/
def LogFilter.parse (spec : String) : LogFilter :=
  let ds := ((spec.splitOn ",").filter (!·.isEmpty)).filterMap fun d =>
    match Directive.read d with
    | .ok d => some d
    | .error _ => none
  { directives := if ds.isEmpty then [{ level := some .error }] else ds }

/-- The notices printed for the directives of a list that cannot be read. -/
def LogFilter.notices (spec : String) : List String :=
  ((spec.splitOn ",").filter (!·.isEmpty)).filterMap fun d =>
    match Directive.read d with
    | .ok _ => none
    | .error notice => some ("ignoring `" ++ d ++ "`: " ++ notice)

/-- The filter of an unset variable: errors only. -/
def LogFilter.errorsOnly : LogFilter := LogFilter.parse ""

/-- The directive that decides on an event: the most specific static one covering it. -/
def LogFilter.decisive (f : LogFilter) (e : Event) : Option Directive :=
  let names := "message" :: e.fields.map Prod.fst
  f.directives.foldl (fun acc d =>
    if d.covers e.target names then
      match acc with
      | some b => if d.supersedes b then some d else some b
      | none => some d
    else acc) none

/-- Whether an event is written. -/
def LogFilter.enabled (f : LogFilter) (e : Event) : Bool :=
  match f.decisive e with
  | some { level := some l, .. } => e.level.rank ≤ l.rank
  | _ => false

/-- The lines of the events the filter lets through, in order. -/
def LogFilter.render (f : LogFilter) (events : List Event) : List String :=
  (events.filter f.enabled).map Event.line

end JobQuery
