/-!
# Log events

Diagnostics the library and the command line emit while they work: a severity, the module
that emitted it (its *target*, a `::`-separated path such as `kqx::transport::http`), a
message and named fields. A log line reads `LEVEL target: message name=value ...`.

Which events are written is up to a filter (see `Log.Filter`); emitting one never changes
what the program computes.
-/

namespace JobQuery

/-- Severities, from the most to the least severe. -/
inductive Level where
  | error
  | warn
  | info
  | debug
  | trace
  deriving Repr, BEq, Inhabited, DecidableEq

namespace Level

/-- Position in severity order: `error` is 1, `trace` is 5. -/
def rank : Level → Nat
  | .error => 1
  | .warn => 2
  | .info => 3
  | .debug => 4
  | .trace => 5

/-- The name a log line starts with. -/
def name : Level → String
  | .error => "ERROR"
  | .warn => "WARN"
  | .info => "INFO"
  | .debug => "DEBUG"
  | .trace => "TRACE"

end Level

/-- One log event. -/
structure Event where
  level : Level
  target : String
  message : String
  /-- Named fields, already written as the line shows them. -/
  fields : List (String × String) := []
  deriving Repr, BEq, Inhabited

/-- A character as a log line writes it: the controls a terminal acts on are spelled out
(`\x1b` for escape, `\x07`, `\x08`, `\x0c`, `\x7f`, and `\u{80}` to `\u{9f}`), so that
logged text cannot drive the terminal; every other character, line breaks included, is
written as it is. -/
def logChar (c : Char) : String :=
  let n := c.toNat
  if n == 0x1B then "\\x1b"
  else if n == 0x07 then "\\x07"
  else if n == 0x08 then "\\x08"
  else if n == 0x0C then "\\x0c"
  else if n == 0x7F then "\\x7f"
  else if 0x80 ≤ n && n ≤ 0x9F then "\\u\x7b" ++ String.ofList (Nat.toDigits 16 n) ++ "\x7d"
  else c.toString

/-- Text as a log line writes it. -/
def logText (s : String) : String := String.join (s.toList.map logChar)

/-- The event as a log line; a message with line breaks spans several lines. -/
def Event.line (e : Event) : String :=
  e.level.name ++ " " ++ e.target ++ ": " ++ logText e.message ++
    String.join (e.fields.map fun (k, v) => " " ++ k ++ "=" ++ logText v)

end JobQuery
