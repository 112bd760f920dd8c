import JobQuery.Config.Setting
import JobQuery.Text.Space

/-!
# Settings from environment variables

Variables whose names start with a prefix (compared without regard to case) are settings.

The name, with surrounding white space removed, loses the prefix; in the rest `__` separates
nested keys (as does `.`), and it is lower-cased: `KQX_SESSION__PAGE_SIZE` sets `page_size`
in the `session` table. A name whose key path has an empty part (`KQX_`, `KQX_A__`,
`KQX_A____B`) sets nothing.

The value is read as the first thing it spells, blanks around it allowed:

* `true` or `false`;
* a table `{k = v, ...}` (keys bare or quoted), an array `[v, ...]`;
* a quoted string `"..."` with the escapes `\" \\ \b \f \n \r \t \uXXXX \UXXXXXXXX`;
* a single character in apostrophes `'c'`;
* otherwise the text up to a separator (`,` `{` `}` `[` `]`), trimmed: a float if it holds a
  `.` and reads as one, else an unsigned integer, else a signed one, else the text itself.

A value that does not read completely as one of these is kept whole, as text.
-/

namespace JobQuery.Config.Env

open Text

/-- The blanks skipped around values: space, tab, line feed, form feed, carriage return. -/
def blank (c : Char) : Bool := c == ' ' || c == '\t' || c == '\n' || c.toNat == 12 || c == '\r'

/-- Whether a character separates the parts of an array or table value. -/
def separator (c : Char) : Bool := c == ',' || c == '\x7b' || c == '\x7d' || c == '[' || c == ']'

/-- Characters of a bare table key. -/
def keyChar (c : Char) : Bool := c.isAlphanum || c == '_' || c == '-'

/-- Text with Unicode white space removed from both ends. -/
def trimSpace (cs : List Char) : List Char :=
  ((cs.dropWhile isSpace).reverse.dropWhile isSpace).reverse

/-- Decimal digits, at least one. -/
def allDigits (cs : List Char) : Bool := !cs.isEmpty && cs.all Char.isDigit

/-- The value of decimal digits. -/
def digitsValue (cs : List Char) : Nat := cs.foldl (fun n c => n * 10 + (c.toNat - 48)) 0

/-- An unsigned 64-bit integer: an optional `+`, then digits. -/
def readUnsigned (cs : List Char) : Option Nat :=
  let ds := match cs with
    | '+' :: rest => rest
    | _ => cs
  if allDigits ds && digitsValue ds < Nat.pow 2 64 then some (digitsValue ds) else none

/-- A signed 64-bit integer: an optional sign, then digits. -/
def readSigned (cs : List Char) : Option Int :=
  match cs with
  | '-' :: ds =>
    if allDigits ds && digitsValue ds ≤ Nat.pow 2 63 then some (-(digitsValue ds : Int)) else none
  | '+' :: ds => if allDigits ds && digitsValue ds < Nat.pow 2 63 then some (digitsValue ds) else none
  | ds => if allDigits ds && digitsValue ds < Nat.pow 2 63 then some (digitsValue ds) else none

/-- A float in the usual decimal syntax: an optional sign, then `inf`, `infinity` or `nan`
in any case, or digits with an optional fraction (digits on at least one side of the
point) and an optional exponent. -/
def readFloat (cs : List Char) : Option Binary64 :=
  let (negative, body) := match cs with
    | '-' :: rest => (true, rest)
    | '+' :: rest => (false, rest)
    | _ => (false, cs)
  let signed := fun (f : Binary64) => if negative then f.neg else f
  let lower := String.ofList (body.map Char.toLower)
  if lower == "inf" || lower == "infinity" then some (signed (.infinity false))
  else if lower == "nan" then some (signed .nan)
  else
    let intDigits := body.takeWhile Char.isDigit
    let afterInt := body.drop intDigits.length
    let (fracDigits, rest) := match afterInt with
      | '.' :: more => (more.takeWhile Char.isDigit, more.drop (more.takeWhile Char.isDigit).length)
      | _ => ([], afterInt)
    if intDigits.isEmpty && fracDigits.isEmpty then none
    else
      let exp : Option Int := match rest with
        | [] => some 0
        | e :: more =>
          if e == 'e' || e == 'E' then
            match more with
            | '-' :: ds => if allDigits ds then some (-(digitsValue ds : Int)) else none
            | '+' :: ds => if allDigits ds then some (digitsValue ds) else none
            | ds => if allDigits ds then some (digitsValue ds) else none
          else none
      exp.map fun e =>
        Binary64.ofDecimal negative (digitsValue (intDigits ++ fracDigits)) (e - fracDigits.length)

/-- A bare value: a float if it holds a point and reads as one, else an unsigned integer,
else a signed one, else the text. -/
def bareValue (text : List Char) : Setting :=
  let asFloat := if text.contains '.' then readFloat text else none
  match asFloat with
  | some f => .float .env f
  | none =>
    match readUnsigned text with
    | some n => .nat .env n
    | none =>
      match readSigned text with
      | some i => .int .env i
      | none => .str .env (String.ofList text)

/-- The value of hex digits. -/
def hexValue (cs : List Char) : Option Nat :=
  cs.foldlM (fun n c =>
    if c.isDigit then some (n * 16 + (c.toNat - 48))
    else if 'a' ≤ c && c ≤ 'f' then some (n * 16 + (c.toNat - 87))
    else if 'A' ≤ c && c ≤ 'F' then some (n * 16 + (c.toNat - 55))
    else none) 0

/-- Whether a character may stand unescaped in a quoted string: a tab, or any character
from the space on except delete. -/
def plainInQuotes (c : Char) : Bool := c == '\t' || (c.toNat ≥ 0x20 && c.toNat != 0x7F)

/-- The escapes of a quoted string's body decoded: `none` for an unknown escape, a bad
`\u` code, a body ending in a backslash or a control character that is not escaped. The
decoded text is built from the body's prefix before the first escape, taken as that many
*bytes* as there are characters before it, which is the body's prefix itself when it is
ASCII. -/
def unescape (body : List Char) : Option String :=
  let rec go : Nat → List Char → List Char → Option (List Char)
    | 0, _, acc => some acc.reverse
    | _, [], acc => some acc.reverse
    | fuel + 1, '\\' :: rest, acc =>
      let hex (width : Nat) (more : List Char) : Option (List Char) :=
        let ds := more.take width
        if ds.length != width || !ds.all (fun c => c.toNat < 128) then none
        else match hexValue ds with
          | some v =>
            if v < 0xD800 || (0xDFFF < v && v < 0x110000) then
              go fuel (more.drop width) (Char.ofNat v :: acc)
            else none
          | none => none
      match rest with
      | '"' :: more => go fuel more ('"' :: acc)
      | '\\' :: more => go fuel more ('\\' :: acc)
      | 'b' :: more => go fuel more (Char.ofNat 8 :: acc)
      | 'f' :: more => go fuel more (Char.ofNat 12 :: acc)
      | 'n' :: more => go fuel more ('\n' :: acc)
      | 'r' :: more => go fuel more ('\r' :: acc)
      | 't' :: more => go fuel more ('\t' :: acc)
      | 'u' :: more => hex 4 more
      | 'U' :: more => hex 8 more
      | _ => none
    | fuel + 1, c :: rest, acc => if plainInQuotes c then go fuel rest (c :: acc) else none
  match body.findIdx? (· == '\\') with
  | none => if body.all plainInQuotes then some (String.ofList body) else none
  | some i =>
    if !(body.take i).all plainInQuotes then none else
    let prefixBytes := (String.ofList body).toUTF8.extract 0 i
    match String.fromUTF8? prefixBytes with
    | none => none
    | some pre =>
      (go (body.length + 1) (body.drop i) []).map fun rest => pre ++ String.ofList rest

/-- The body of a quoted string after its opening quote, up to the closing quote (an
escaped quote does not close it): the body and what follows the closing quote. -/
def quotedBody : List Char → List Char → Option (List Char × List Char)
  | acc, '"' :: rest => some (acc.reverse, rest)
  | acc, '\\' :: c :: rest => quotedBody (c :: '\\' :: acc) rest
  | acc, ['\\'] => quotedBody ('\\' :: acc) []
  | acc, c :: rest => quotedBody (c :: acc) rest
  | _, [] => none

/-- A quoted string after its opening quote. -/
def quoted (cs : List Char) : Option (String × List Char) := do
  let (body, rest) ← quotedBody [] cs
  let s ← unescape body
  return (s, rest)

mutual

/-- One value at the front of the text, blanks around it skipped: the value and the rest. -/
def value : (fuel : Nat) → List Char → Option (Setting × List Char)
  | 0, _ => none
  | fuel + 1, cs =>
    let cs := cs.dropWhile blank
    let result : Option (Setting × List Char) :=
      match cs with
      | 't' :: 'r' :: 'u' :: 'e' :: rest => some (.bool .env true, rest)
      | 'f' :: 'a' :: 'l' :: 's' :: 'e' :: rest => some (.bool .env false, rest)
      | '\x7b' :: rest => (entries fuel true [] rest).map fun (es, r) => (.table (some .env) es, r)
      | '[' :: rest => (items fuel [] rest).map fun (vs, r) => (.list .env vs, r)
      | '"' :: rest => (quoted rest).map fun (s, r) => (.str .env s, r)
      | c :: rest =>
        if c.toNat == 39 then
          match rest with
          | x :: q :: more => if q.toNat == 39 then some (.str .env (String.singleton x), more) else none
          | _ => none
        else
          let text := cs.takeWhile fun c => !separator c
          some (bareValue (trimSpace text), cs.drop text.length)
      | [] => some (bareValue [], [])
    result.map fun (v, rest) => (v, rest.dropWhile blank)

/-- Array items after `[`, up to and including `]`: an item after each comma, the list
ending at a `]` where an item would start or where no comma follows an item. -/
def items : (fuel : Nat) → List Setting → List Char → Option (List Setting × List Char)
  | 0, _, _ => none
  | fuel + 1, acc, cs =>
    match cs with
    | ']' :: rest => some (acc.reverse, rest)
    | _ =>
      match value fuel cs with
      | none => none
      | some (v, rest) =>
        match rest with
        | ',' :: more => items fuel (v :: acc) more
        | ']' :: more => some ((v :: acc).reverse, more)
        | _ => none

/-- Table entries after `{`, up to and including `}`, each `key = value`. -/
def entries : (fuel : Nat) → Bool → List (String × Setting) → List Char →
    Option (List (String × Setting) × List Char)
  | 0, _, _, _ => none
  | fuel + 1, _, acc, cs =>
    match cs with
    | '\x7d' :: rest => some (acc, rest)
    | _ =>
      let cs := cs.dropWhile blank
      let key := match cs with
        | '"' :: rest => quoted rest
        | _ =>
          let k := cs.takeWhile keyChar
          if k.isEmpty then none else some (String.ofList k, cs.drop k.length)
      match key with
      | none => none
      | some (k, rest) =>
        match rest.dropWhile blank with
        | '=' :: rest =>
          match value fuel (rest.dropWhile blank) with
          | none => none
          | some (v, rest) =>
            let acc := insertSorted k v acc
            match rest.dropWhile blank with
            | ',' :: more => entries fuel false acc more
            | '\x7d' :: more => some (acc, more)
            | _ => none
        | _ => none

end

/-- The setting an environment value spells. -/
def parseValue (text : String) : Setting :=
  let cs := text.toList
  match value (cs.length + 2) cs with
  | some (v, []) => v
  | _ => .str .env text

/-- A setting at a nested key path. -/
def nest : List String → Setting → Setting
  | [], v => v
  | k :: rest, v => .table (some .env) [(k, nest rest v)]

/-- The key path a variable name gives after the prefix, if it has the prefix and no part
of the path is empty. -/
def keyPath (pfx : String) (name : String) : Option (List String) :=
  let name := trimSpace name.toList
  if name.length ≥ pfx.length && (String.ofList (name.take pfx.length)).toLower == pfx.toLower then
    let key := trimSpace ((String.ofList (name.drop pfx.length)).replace "__" ".").toList
    let parts := (String.ofList key).toLower.splitOn "."
    if parts.any (·.isEmpty) then none else some parts
  else none

/-- The settings of the variables with the prefix, later variables merged over earlier
ones. -/
def settings (pfx : String) (vars : List (String × String)) : Setting :=
  vars.foldl (fun acc (name, v) =>
    match keyPath pfx name with
    | some path => acc.merge (nest path (parseValue v))
    | none => acc) (.table (some .env) [])

end JobQuery.Config.Env
