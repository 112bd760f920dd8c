import JobQuery.Config.TomlDocument
import JobQuery.Text.Combinator

/-!
# TOML

A reader for TOML documents, producing the settings of a configuration file. It covers the
TOML grammar: comments, bare, quoted and dotted keys, `[table]` and `[[array]]` headers,
basic, literal and multi-line strings with their escapes, integers (decimal, hex, octal,
binary, with `_` separators), floats (with exponents, `inf`, `nan`), booleans, date-times,
arrays and inline tables.

The grammar is written with the byte parsers of `Text.Combinator`, and where it commits and
what it labels decide what a failure says. The choices are those of the reference reader:

* a line starting with `#`, `[` or anything but a line break commits to a comment, a header
  or a key-value pair;
* a key-value pair commits after its key, a header after its `[`; a value commits once its
  kind is clear (`"`, `[`, `{`, `0x`, a `_` after a digit, an exponent's `e`, the `-` of a
  date, the `:` of a time), and otherwise falls back from date-time to float to integer;
* a refused value (an integer too large, a day past the month's end) fails where the value
  started, or where the refused part started.

A failure is rendered with the offending line and carets under the character it points at:

```
TOML parse error at line 1, column 13
  |
1 | [credentials
  |             ^
invalid table header
expected `.`, `]`
```

Date-times are kept as their text, wrapped the way they reach typed records: a one-entry
table under the key `$__toml_private_datetime`.
-/

namespace JobQuery.Config.Toml

open Text ByteParser

/-- A TOML reader. -/
abbrev Reader := ByteParser

-- ---------------------------------------------------------------------------
-- Bytes
-- ---------------------------------------------------------------------------

/-- The byte of an ASCII character. -/
def ascii (c : Char) : UInt8 := c.toUInt8

/-- The bytes of an ASCII text. -/
def asciiBytes (s : String) : List UInt8 := s.toList.map ascii

/-- A decimal digit. -/
def isDigit (b : UInt8) : Bool := ascii '0' ≤ b && b ≤ ascii '9'

/-- A hex digit. -/
def isHexDigit (b : UInt8) : Bool :=
  isDigit b || (ascii 'a' ≤ b && b ≤ ascii 'f') || (ascii 'A' ≤ b && b ≤ ascii 'F')

/-- The value of a hex digit. -/
def hexValue (b : UInt8) : Nat :=
  if isDigit b then b.toNat - 48
  else if ascii 'a' ≤ b && b ≤ ascii 'f' then b.toNat - 87
  else b.toNat - 55

/-- The value of a run of digits in a radix. -/
def digitsValue (radix : Nat) (ds : List UInt8) : Nat :=
  ds.foldl (fun n b => n * radix + hexValue b) 0

/-- Spaces and tabs. -/
def isWsChar (b : UInt8) : Bool := b == ascii ' ' || b == 9

/-- Bytes of a line other than its end: tab, printable ASCII, and every non-ASCII byte. -/
def isNonEol (b : UInt8) : Bool := b == 9 || (0x20 ≤ b && b ≤ 0x7E) || 0x80 ≤ b

/-- Bytes that stand for themselves in a basic string. -/
def isBasicUnescaped (b : UInt8) : Bool :=
  isWsChar b || b == 0x21 || (0x23 ≤ b && b ≤ 0x5B) || (0x5D ≤ b && b ≤ 0x7E) || 0x80 ≤ b

/-- Bytes of a literal string. -/
def isLiteralChar (b : UInt8) : Bool :=
  b == 9 || (0x20 ≤ b && b ≤ 0x26) || (0x28 ≤ b && b ≤ 0x7E) || 0x80 ≤ b

/-- Bytes of a bare key. -/
def isBareKeyChar (b : UInt8) : Bool :=
  (ascii 'A' ≤ b && b ≤ ascii 'Z') || (ascii 'a' ≤ b && b ≤ ascii 'z') || isDigit b ||
    b == ascii '-' || b == ascii '_'

/-- The text of bytes (of a valid UTF-8 run). -/
def utf8Text (bs : List UInt8) : String := (String.fromUTF8? (ByteArray.mk bs.toArray)).getD ""

/-- A run of bytes satisfying a predicate, of any length. -/
def takeAll (p : UInt8 → Bool) : Reader (List UInt8) := do takeWhile 0 ((← remaining)) p

/-- A run of at least one byte satisfying a predicate. -/
def takeSome (p : UInt8 → Bool) : Reader (List UInt8) := do takeWhile 1 ((← remaining)) p

/-- The text a parser reads. -/
def recognize (p : Reader α) : Reader String := do
  let start ← offset
  let _ ← p
  textFrom start

/-- Expectations as a failure lists them. -/
def expectedChar (c : String) : Context := .expected ("`" ++ c ++ "`")

/-- A parser whose failures say what a value would have started with. -/
def asString (p : Reader α) : Reader α :=
  context (expectedChar "'") (context (expectedChar "\"") (context (.label "string") p))

/-- The message of a value out of its range. -/
def outOfRange : String := "value is out of range"

-- ---------------------------------------------------------------------------
-- Blanks, comments and line ends
-- ---------------------------------------------------------------------------

/-- Spaces and tabs. -/
def ws : Reader Unit := do let _ ← takeAll isWsChar

/-- A comment: `#` and the rest of the line. -/
def comment : Reader Unit := do
  let _ ← byte (ascii '#')
  let _ ← takeAll isNonEol

/-- A line feed, or a carriage return and a line feed. -/
def newline : Reader Unit :=
  alt [(do let _ ← byte 10), (do let _ ← byte 13; let _ ← byte 10)]

/-- A line end, or the end of the text. -/
def lineEnding : Reader Unit := alt [newline, eof]

/-- What may follow an item on its line: blanks, a comment, the line end. -/
def lineTrailing : Reader Unit := do
  ws
  let _ ← optional comment
  lineEnding

/-- Blanks and line ends. -/
def wsNewline : Reader Unit := do
  let _ ← many (alt [newline, (do let _ ← takeSome isWsChar)])

/-- A line end, then blanks and line ends. -/
def wsNewlines : Reader Unit := do
  newline
  wsNewline

/-- Blanks, comments and line ends (between array items); a comment must end its line. -/
def wsCommentNewline : Reader Unit := do
  let rec go : Nat → Reader Unit
    | 0 => pure ()
    | fuel + 1 => do
      ws
      match ← peekByte with
      | some 35 => do comment; newline; go fuel
      | some 10 | some 13 => do newline; go fuel
      | _ => pure ()
  go ((← remaining) + 1)

-- ---------------------------------------------------------------------------
-- Strings
-- ---------------------------------------------------------------------------

/-- What an escape may be followed by. -/
def escapeContexts : List Context :=
  [.label "escape sequence"] ++ ["b", "f", "n", "r", "t", "u", "U", "\\", "\""].map expectedChar

/-- The `n` hex digits of a `\u` or `\U` escape: exactly `n` of them, naming a Unicode
scalar value; both failures point just after the `u`. -/
def hexEscape (n : Nat) (label : String) : Reader Char :=
  context (.label label) <| commit do
    let start ← offset
    let ds ← takeWhile 0 n isHexDigit
    if ds.length != n then throw { offset := start }
    let v := digitsValue 16 ds
    if v < 0xD800 || (0xDFFF < v && v < 0x110000) then return Char.ofNat v
    else throw { offset := start, cause := some outOfRange }

/-- The character an escape stands for, after its backslash. -/
def escapeSeqChar : Reader Char := do
  let b ← anyByte
  if b == ascii 'b' then return Char.ofNat 8
  else if b == ascii 'f' then return Char.ofNat 12
  else if b == ascii 'n' then return '\n'
  else if b == ascii 'r' then return '\r'
  else if b == ascii 't' then return '\t'
  else if b == ascii 'u' then hexEscape 4 "unicode 4-digit hex code"
  else if b == ascii 'U' then hexEscape 8 "unicode 8-digit hex code"
  else if b == ascii '\\' then return '\\'
  else if b == ascii '"' then return '"'
  else throw { committed := true, offset := ← offset, contexts := escapeContexts }

/-- An escape. -/
def escaped : Reader Char := do
  let _ ← byte (ascii '\\')
  escapeSeqChar

/-- A run of a basic string: unescaped bytes, or one escape. -/
def basicChars : Reader String :=
  alt [(do return utf8Text (← takeSome isBasicUnescaped)),
       (do return String.singleton (← escaped))]

/-- A basic string: `"...“` with escapes. -/
def basicString : Reader String := do
  let _ ← byte (ascii '"')
  let parts ← many basicChars
  let _ ← context (.label "basic string") (commit (byte (ascii '"')))
  return String.join parts

/-- One or two quotes followed (without consuming) by what `term` reads. -/
def closingQuotes (q : UInt8) (term : Reader Unit) : Reader String := do
  let start ← offset
  tryCatch (do literal [q, q]; peek term; return String.ofList [Char.ofNat q.toNat, Char.ofNat q.toNat])
    fun f => if f.committed then throw f else do
      set start
      literal [q]
      peek term
      return String.singleton (Char.ofNat q.toNat)

/-- A piece of a multi-line basic string: unescaped bytes, a line-ending backslash with
the blanks and line ends after it (which stand for nothing), an escape, or a line end. -/
def mlbContent : Reader String :=
  alt [(do return utf8Text (← takeSome isBasicUnescaped)),
       (do let _ ← many1 (do let _ ← byte (ascii '\\'); ws; wsNewlines); return ""),
       (do return String.singleton (← escaped)),
       (do newline; return "\n")]

/-- The body of a multi-line basic string: pieces, with runs of one or two quotes between
them, and one or two quotes right before the closing delimiter. -/
def mlBasicBody : Reader String := do
  let first ← many mlbContent
  let notQuote : Reader Unit := do let _ ← byteIf (· != ascii '"')
  let rec quoted : Nat → String → Reader String
    | 0, acc => return acc
    | fuel + 1, acc => do
      match ← optional (closingQuotes (ascii '"') notQuote) with
      | none => return acc
      | some q =>
        match ← optional mlbContent with
        | none => return acc
        | some c =>
          let more ← many mlbContent
          quoted fuel (acc ++ q ++ c ++ String.join more)
  let body ← quoted ((← remaining) + 1) (String.join first)
  let tail ← optional (closingQuotes (ascii '"') (literal (asciiBytes "\"\"\"")))
  return body ++ tail.getD ""

/-- A multi-line basic string: `"""..."""`, a line end right after the opening dropped. -/
def mlBasicString : Reader String :=
  context (.label "multiline basic string") do
    literal (asciiBytes "\"\"\"")
    let _ ← optional newline
    let body ← commit mlBasicBody
    commit (literal (asciiBytes "\"\"\""))
    return body

/-- A literal string: `'...'` without escapes. -/
def literalString : Reader String :=
  context (.label "literal string") do
    let _ ← byte 39
    let bs ← commit (takeAll isLiteralChar)
    let _ ← commit (byte 39)
    return utf8Text bs

/-- A piece of a multi-line literal string: one byte, or a line end. -/
def mllContent : Reader Unit :=
  alt [(do let _ ← byteIf isLiteralChar), newline]

/-- A multi-line literal string: `'''...'''`, a line end right after the opening dropped,
line ends inside read as line feeds. -/
def mlLiteralString : Reader String :=
  context (.label "multiline literal string") do
    literal [39, 39, 39]
    let _ ← optional newline
    let body ← commit <| recognize do
      let _ ← many mllContent
      let notApostrophe : Reader Unit := do let _ ← byteIf (· != 39)
      let _ ← many (do let _ ← closingQuotes 39 notApostrophe; let _ ← many1 mllContent)
      let _ ← optional (closingQuotes 39 (literal [39, 39, 39]))
    commit (literal [39, 39, 39])
    return "\n".intercalate (body.splitOn "\r\n")

/-- A string of any of the four kinds. -/
def string : Reader String := alt [mlBasicString, basicString, mlLiteralString, literalString]

-- ---------------------------------------------------------------------------
-- Keys
-- ---------------------------------------------------------------------------

/-- One key: quoted or bare. -/
def simpleKey : Reader KeyPart := do
  let start ← offset
  let name ← match ← peekByte with
    | none => fail
    | some 34 => basicString
    | some 39 => literalString
    | some _ => do pure (utf8Text (← takeSome isBareKeyChar))
  return { name, raw := ← textFrom start }

/-- The most keys a dotted key may have. -/
def keyDepthLimit : Nat := 80

/-- A dotted key: keys separated by dots, blanks allowed around them. -/
def keyPath : Reader (List KeyPart) :=
  tryMap (context (.label "key") (sepBy1 (do ws; let k ← simpleKey; ws; return k)
      (byte (ascii '.'))))
    fun ks => if ks.length < keyDepthLimit then .ok ks else .error "recursion limit exceeded"

-- ---------------------------------------------------------------------------
-- Numbers
-- ---------------------------------------------------------------------------

/-- Digits of a kind, with single underscores between them; an underscore must be followed
by a digit. -/
def digitRun (first : UInt8 → Bool) (rest : UInt8 → Bool) : Reader Unit := do
  let _ ← byteIf first
  let _ ← many (alt [(do let _ ← byteIf rest),
    (do let _ ← byte (ascii '_'); let _ ← context (.expected "digit") (commit (byteIf rest)))])

/-- A decimal integer's text: a sign, then `0` or digits not starting with `0`. -/
def decInt : Reader String :=
  context (.label "integer") <| recognize do
    let _ ← optional (byteIf fun b => b == ascii '+' || b == ascii '-')
    alt [digitRun (fun b => ascii '1' ≤ b && b ≤ ascii '9') isDigit, (do let _ ← byteIf isDigit)]

/-- Digits that may start with `0`. -/
def zeroPrefixableInt : Reader Unit := digitRun isDigit isDigit

/-- A fraction: `.` and digits. -/
def frac : Reader Unit := do
  let _ ← byte (ascii '.')
  context (.expected "digit") (commit zeroPrefixableInt)

/-- An exponent: `e`, a sign, digits. -/
def expPart : Reader Unit := do
  let _ ← byteIf fun b => b == ascii 'e' || b == ascii 'E'
  let _ ← optional (byteIf fun b => b == ascii '+' || b == ascii '-')
  commit zeroPrefixableInt

/-- The text of a float: a decimal integer, then an exponent, or a fraction and an
optional exponent. -/
def floatText : Reader String :=
  recognize do
    let _ ← decInt
    alt [expPart, (do frac; let _ ← optional expPart)]

/-- The double a float's text denotes (its underscores dropped). -/
def floatValue (text : String) : Binary64 :=
  let cs := text.toList.filter (· != '_')
  let (negative, cs) := match cs with
    | '-' :: rest => (true, rest)
    | '+' :: rest => (false, rest)
    | _ => (false, cs)
  let intDigits := cs.takeWhile Char.isDigit
  let cs := cs.drop intDigits.length
  let (fracDigits, cs) := match cs with
    | '.' :: rest => (rest.takeWhile Char.isDigit, rest.drop (rest.takeWhile Char.isDigit).length)
    | _ => ([], cs)
  let exp : Int := match cs with
    | _ :: '-' :: ds => -((String.ofList ds).toNat! : Int)
    | _ :: '+' :: ds => (String.ofList ds).toNat!
    | _ :: ds => (String.ofList ds).toNat!
    | [] => 0
  Binary64.ofDecimal negative (String.ofList (intDigits ++ fracDigits)).toNat!
    (exp - fracDigits.length)

/-- `inf` or `nan`, signed. -/
def specialFloat : Reader Binary64 := do
  let sign ← optional (byteIf fun b => b == ascii '+' || b == ascii '-')
  let v ← alt [(do literal (asciiBytes "inf"); return Binary64.infinity false),
    (do literal (asciiBytes "nan"); return Binary64.nan)]
  return if sign == some (ascii '-') then v.neg else v

/-- A float. A float that rounds to positive infinity is refused where it starts. -/
def float : Reader Binary64 :=
  context (.label "floating-point number") <| alt [
    (do
      let start ← offset
      let v := floatValue (← floatText)
      if v == Binary64.infinity false then throw { committed := true, offset := start }
      return v),
    specialFloat]

/-- The largest 64-bit signed integer. -/
def i64Max : Nat := Nat.pow 2 63 - 1

/-- A decimal integer's value, or why it does not fit 64 bits. -/
def decValue (text : String) : Except String Int :=
  let cs := text.toList.filter (· != '_')
  let (negative, ds) := match cs with
    | '-' :: rest => (true, rest)
    | '+' :: rest => (false, rest)
    | _ => (false, cs)
  let n := (String.ofList ds).toNat!
  if negative then
    if n ≤ i64Max + 1 then .ok (-(n : Int)) else .error "number too small to fit in target type"
  else if n ≤ i64Max then .ok n else .error "number too large to fit in target type"

/-- An integer with a radix prefix: the digits after the prefix. -/
def prefixedDigits (pfx : String) (isDig : UInt8 → Bool) (label : String) : Reader (List UInt8) :=
  context (.label label) do
    literal (asciiBytes pfx)
    let start ← offset
    commit (digitRun isDig isDig)
    return (← sliceFrom start).filter (· != ascii '_')

/-- An integer: decimal, or hex, octal or binary after `0x`, `0o`, `0b`. A value that does
not fit 64 bits is refused where the integer starts. -/
def integer : Reader Int := do
  let two ← peekBytes 2
  let radix (pfx : String) (r : Nat) (isDig : UInt8 → Bool) (label : String) : Reader Int :=
    commit <| tryMap (prefixedDigits pfx isDig label) fun ds =>
      let n := digitsValue r ds
      if n ≤ i64Max then .ok n else .error "number too large to fit in target type"
  if two == asciiBytes "0x" then radix "0x" 16 isHexDigit "hexadecimal integer"
  else if two == asciiBytes "0o" then
    radix "0o" 8 (fun b => ascii '0' ≤ b && b ≤ ascii '7') "octal integer"
  else if two == asciiBytes "0b" then
    radix "0b" 2 (fun b => b == ascii '0' || b == ascii '1') "binary integer"
  else
    let start ← offset
    match decValue (← decInt) with
    | .ok v => return v
    | .error cause => throw { committed := true, offset := start, cause := some cause }

-- ---------------------------------------------------------------------------
-- Date-times
-- ---------------------------------------------------------------------------

/-- Two digits in a range; out of range is refused where they start. -/
def twoDigits (least most : Nat) : Reader Nat :=
  tryMap (takeWhile 2 2 isDigit) fun ds =>
    let d := digitsValue 10 ds
    if least ≤ d && d ≤ most then .ok d else .error outOfRange

/-- A calendar date: year, month, day, the day within the month's length. -/
def fullDate : Reader (Nat × Nat × Nat) := do
  let year := digitsValue 10 (← takeWhile 4 4 isDigit)
  let _ ← byte (ascii '-')
  let month ← commit (twoDigits 1 12)
  let _ ← commit (byte (ascii '-'))
  let dayStart ← offset
  let day ← commit (twoDigits 1 31)
  let leap := year % 4 == 0 && (year % 100 != 0 || year % 400 == 0)
  let longest := if month == 2 then (if leap then 29 else 28)
    else if month == 4 || month == 6 || month == 9 || month == 11 then 30 else 31
  if longest < day then throw { committed := true, offset := dayStart, cause := some outOfRange }
  return (year, month, day)

/-- Fractional seconds, as nanoseconds (digits past the ninth are dropped). -/
def secondFraction : Reader Nat := do
  let _ ← byte (ascii '.')
  let ds := (← takeSome isDigit).take 9
  return digitsValue 10 ds * Nat.pow 10 (9 - ds.length)

/-- A time of day: hour, minute, second, nanoseconds. -/
def partialTime : Reader (Nat × Nat × Nat × Nat) := do
  let hour ← twoDigits 0 23
  let _ ← byte (ascii ':')
  commit do
    let minute ← twoDigits 0 59
    let _ ← byte (ascii ':')
    let second ← twoDigits 0 60
    let nanos ← optional secondFraction
    return (hour, minute, second, nanos.getD 0)

/-- A time offset: `Z`, or a signed `hh:mm`, in minutes (`none` for `Z`). -/
def timeOffset : Reader (Option Int) :=
  context (.label "time offset") <| alt [
    (do let _ ← byteIf fun b => b == ascii 'Z' || b == ascii 'z'; return none),
    (do
      let sign ← byteIf fun b => b == ascii '+' || b == ascii '-'
      let (h, m) ← commit do
        let h ← twoDigits 0 23
        let _ ← byte (ascii ':')
        let m ← twoDigits 0 59
        return (h, m)
      let minutes : Int := h * 60 + m
      return some (if sign == ascii '-' then -minutes else minutes))]

/-- A number as at least `width` digits. -/
def padded (width : Nat) (n : Nat) : String :=
  let s := toString n
  String.ofList (List.replicate (width - s.length) '0') ++ s

/-- The text of a time of day: fractional seconds without trailing zeros. -/
def timeText (t : Nat × Nat × Nat × Nat) : String :=
  let (h, m, s, ns) := t
  let base := padded 2 h ++ ":" ++ padded 2 m ++ ":" ++ padded 2 s
  if ns == 0 then base
  else base ++ "." ++ String.ofList ((padded 9 ns).toList.reverse.dropWhile (· == '0')).reverse

/-- The text of a time offset. -/
def offsetText : Option Int → String
  | none => "Z"
  | some minutes =>
    (if minutes < 0 then "-" else "+") ++ padded 2 (minutes.natAbs / 60) ++ ":" ++
      padded 2 (minutes.natAbs % 60)

/-- A date-time, as its normalized text: a date with an optional time (and offset), or a
time alone. -/
def dateTime : Reader String :=
  alt [
    context (.label "date-time") do
      let (y, mo, d) ← fullDate
      let date := padded 4 y ++ "-" ++ padded 2 mo ++ "-" ++ padded 2 d
      let rest ← optional do
        let _ ← byteIf fun b => b == ascii 'T' || b == ascii 't' || b == ascii ' '
        let t ← partialTime
        let o ← optional timeOffset
        return "T" ++ timeText t ++ (o.map offsetText).getD ""
      return date ++ rest.getD "",
    context (.label "time") do return timeText (← partialTime)]

-- ---------------------------------------------------------------------------
-- Values
-- ---------------------------------------------------------------------------

/-- How many arrays and inline tables may nest. -/
def nestingLimit : Nat := 80

/-- The setting of a date-time. -/
def dateTimeSetting (text : String) : Setting :=
  .table (some .file) [("$__toml_private_datetime", .str .file text)]

/-- A key-value pair of an inline table: its keys and value. -/
abbrev Pair := List KeyPart × Setting

/-- The table of an inline table's pairs, or the clash that stops it. -/
def tableOfPairs (pairs : List Pair) : Except String Setting := do
  let d ← pairs.foldlM (fun (d : Doc) (keys, v) =>
    match d.insertValue (keys.map (·.name)) v true with
    | .ok d => .ok d
    | .error c => .error c.message) {}
  return d.toSetting

mutual

/-- One value; `depth` counts the arrays and inline tables around it. -/
def value (depth : Nat) : Nat → Reader Setting
  | 0 => fail
  | fuel + 1 => do
    match ← peekByte with
    | none => fail
    | some b =>
      if b == ascii '"' || b == 39 then return .str .file (← string)
      else if b == ascii '[' then return .list .file (← array depth fuel)
      else if b == ascii '\x7b' then inlineTable depth fuel
      else if b == ascii '+' || b == ascii '-' || isDigit b then
        alt [(do return dateTimeSetting (← dateTime)),
          (do return .float .file (← float)),
          (do return .int .file (← integer))]
      else if b == ascii '_' then
        context (.expected "leading digit") (do return .int .file (← integer))
      else if b == ascii '.' then
        context (.expected "leading digit") (do return .float .file (← float))
      else if b == ascii 't' then
        asString do
          let _ ← peek (byte (ascii 't'))
          commit (literal (asciiBytes "true"))
          return .bool .file true
      else if b == ascii 'f' then
        asString do
          let _ ← peek (byte (ascii 'f'))
          commit (literal (asciiBytes "false"))
          return .bool .file false
      else if b == ascii 'i' then
        asString do literal (asciiBytes "inf"); return .float .file (Binary64.infinity false)
      else if b == ascii 'n' then
        asString do literal (asciiBytes "nan"); return .float .file Binary64.nan
      else asString fail

/-- An array: `[`, values separated by commas (a trailing comma allowed, blanks, line ends
and comments around them), `]`. -/
def array (depth : Nat) : Nat → Reader (List Setting)
  | 0 => fail
  | fuel + 1 => do
    if nestingLimit ≤ depth + 1 then commit (failBecause "recursion limit exceeded")
    let _ ← byte (ascii '[')
    let items ← commit do
      let item : Reader Setting := do
        wsCommentNewline
        let v ← value (depth + 1) fuel
        wsCommentNewline
        return v
      let items ← optional do
        let vs ← sepBy1 item (byte (ascii ','))
        let _ ← optional (byte (ascii ','))
        return vs
      wsCommentNewline
      return items.getD []
    let _ ← context (expectedChar "]") (context (.label "array") (commit (byte (ascii ']'))))
    return items

/-- An inline table: `{`, key-value pairs separated by commas, `}`. Its pairs are checked
for clashes once all are read; a clash is reported just after the `{`. -/
def inlineTable (depth : Nat) : Nat → Reader Setting
  | 0 => fail
  | fuel + 1 => do
    if nestingLimit ≤ depth + 1 then commit (failBecause "recursion limit exceeded")
    let _ ← byte (ascii '\x7b')
    let t ← commit <| tryMap (do
        let pair : Reader Pair := do
          let keys ← keyPath
          commit do
            let _ ← context (expectedChar "=") (context (expectedChar ".") (byte (ascii '=')))
            ws
            let v ← value (depth + 1) fuel
            ws
            return (keys, v)
        let pairs ← sepBy pair (byte (ascii ','))
        ws
        return pairs) tableOfPairs
    let _ ← context (expectedChar "\x7d") (context (.label "inline table")
      (commit (byte (ascii '\x7d'))))
    return t

end

-- ---------------------------------------------------------------------------
-- Documents
-- ---------------------------------------------------------------------------

/-- What may end a header or a key-value line. -/
def lineEnd : Reader Unit :=
  context (expectedChar "#") (context (.expected "newline") lineTrailing)

/-- A `key = value` line, added to the document. A clash is reported where the line's key
starts. -/
def keyval (fuel : Nat) (d : Doc) : Reader Doc := do
  let start ← offset
  let keys ← keyPath
  let v ← commit do
    let _ ← context (expectedChar "=") (context (expectedChar ".") (byte (ascii '=')))
    ws
    let v ← value 0 fuel
    lineEnd
    return v
  match d.insertValue (keys.map (·.name)) v with
  | .ok d => return d
  | .error c => throw { offset := start, cause := some c.message }

/-- A `[table]` or `[[array]]` header line, opening its table. -/
def header (d : Doc) : Reader Doc :=
  context (.label "table header") do
    let start ← offset
    let two ← peek (do let a ← anyByte; let b ← anyByte; return [a, b])
    let isArray := two == asciiBytes "[["
    let close := if isArray then "]]" else "]"
    literal (asciiBytes (if isArray then "[[" else "["))
    let keys ← commit keyPath
    context (expectedChar close) (context (expectedChar ".")
      (commit (literal (asciiBytes close))))
    commit lineEnd
    match (if isArray then d.openArrayTable keys else d.openTable keys) with
    | .ok d => return d
    | .error c => throw { offset := start, cause := some c.message }

/-- One line's item: a comment, a header, a line end or a key-value pair. -/
def item (fuel : Nat) (d : Doc) : Reader Doc := do
  match ← peekByte with
  | none => fail
  | some 35 => commit (do comment; lineEnding); return d
  | some 91 => commit (header d)
  | some 10 | some 13 => newline; return d
  | some _ => commit (keyval fuel d)

/-- A whole document: an optional byte-order mark, then items with blanks between them,
then the end of the text. -/
def document : Reader Doc := do
  let _ ← optional (literal [0xEF, 0xBB, 0xBF])
  ws
  let budget := (← remaining) + 1
  let rec go : Nat → Doc → Reader Doc
    | 0, d => return d
    | fuel + 1, d => do
      let start ← offset
      match ← optional (do let d ← item budget d; ws; return d) with
      | none => return d
      | some d => if (← offset) == start then return d else go fuel d
  let d ← go budget {}
  eof
  return d

/-- Read a document: its settings, or where and why reading failed. -/
def parse (text : String) : Except Failure Setting :=
  match parseBytes document text.toUTF8 with
  | .ok d => .ok d.toSetting
  | .error f => .error f

-- ---------------------------------------------------------------------------
-- Rendering failures
-- ---------------------------------------------------------------------------

/-- The line (from 0) and column (from 0) of a byte offset of a text. The column counts the
characters before the offset on its line, or, when the offset starts a character of several
bytes, the bytes before it; an offset past the end counts one column beyond the last
character. -/
def position (text : String) (index : Nat) : Nat × Nat :=
  let bytes := text.toUTF8.toList
  if bytes.isEmpty then (0, index)
  else
    let safe := min index (bytes.length - 1)
    let before := bytes.take safe
    let lineStart := safe - (before.reverse.takeWhile (· != 10)).length
    let slice := (bytes.drop lineStart).take (safe - lineStart + 1)
    let column := match String.fromUTF8? (ByteArray.mk slice.toArray) with
      | some s => s.length - 1
      | none => safe - lineStart
    (before.count 10, column + (index - safe))

/-- The length in bytes of the character a lead byte starts. -/
def charWidth (lead : UInt8) : Nat :=
  if lead < 0x80 then 1 else if lead < 0xE0 then 2 else if lead < 0xF0 then 3 else 4

/-- The text of a failure: position, the line with carets under the character it points at
(one per byte of it, at least one, none past the line), then the message. An offset inside
a character points at the character. -/
def render (f : Failure) (text : String) : String :=
  let bytes := text.toUTF8
  let rec toBoundary : Nat → Nat → Nat
    | 0, i => i
    | fuel + 1, i =>
      match bytes[i]? with
      | some b => if b &&& 0xC0 == 0x80 && i > 0 then toBoundary fuel (i - 1) else i
      | none => i
  let start := toBoundary 4 (min f.offset bytes.size)
  let width := match bytes[start]? with
    | some b => charWidth b
    | none => 0
  let (line, column) := position text start
  let number := toString (line + 1)
  let content := (text.splitOn "\n").getD line ""
  let carets := max 1 (min width (content.utf8ByteSize - column))
  let pad := String.ofList (List.replicate (number.length + 1) ' ')
  "TOML parse error at line " ++ number ++ ", column " ++ toString (column + 1) ++ "\n" ++
    pad ++ "|\n" ++
    number ++ " | " ++ content ++ "\n" ++
    pad ++ "|" ++ String.ofList (List.replicate (column + 1) ' ') ++
    String.ofList (List.replicate carets '^') ++ "\n" ++
    f.message ++ "\n"

end JobQuery.Config.Toml
