import JobQuery.Json.Value

/-!
# Printing JSON

The compact text form of a value: no whitespace, object members in the order they are
stored (sorted, for canonical objects), strings escaped the way a conforming JSON writer
escapes them.

* Only `"`, `\` and the control characters below U+0020 are escaped; `\b`, `\f`, `\n`,
  `\r`, `\t` have their short forms and the other control characters are written
  `\u00XX` with lower-case hex digits. Everything else, non-ASCII included, is written as is.
* An integer is written in decimal.
* A float is written from its shortest digits (`Binary64.jsonText`): positional notation
  when the decimal point falls within the first sixteen digits (`12.5`, `100.0`, `0.0012`),
  otherwise scientific notation with one leading digit (`1e+20`, `1.5e-7`). A float always
  shows a decimal point or an exponent, so it never reads back as an integer.
-/

namespace JobQuery.Json

/-- The lower-case hex digit of a number below 16. -/
def hexDigit (n : Nat) : Char :=
  if n < 10 then Char.ofNat (48 + n) else Char.ofNat (87 + n)

/-- A control character as `\u00XX`. -/
def unicodeEscape (c : Char) : String :=
  "\\u00" ++ (String.singleton (hexDigit (c.toNat / 16))).push (hexDigit (c.toNat % 16))

/-- The JSON escape of one character inside a string literal. -/
def escapeChar (c : Char) : String :=
  if c == '"' then "\\\""
  else if c == '\\' then "\\\\"
  else if c == '\n' then "\\n"
  else if c == '\r' then "\\r"
  else if c == '\t' then "\\t"
  else if c.toNat == 8 then "\\b"
  else if c.toNat == 12 then "\\f"
  else if c.toNat < 32 then unicodeEscape c
  else String.singleton c

/-- A string as a JSON string literal, quotes included. -/
def quote (s : String) : String :=
  s.foldl (fun acc c => acc ++ escapeChar c) "\"" ++ "\""

/-- The text of a number. -/
def Number.text : Number → String
  | .int i => toString i
  | .float f => f.jsonText

mutual

/-- The compact text of a value. -/
def Value.compact : Value → String
  | .null => "null"
  | .bool true => "true"
  | .bool false => "false"
  | .num n => n.text
  | .str s => quote s
  | .arr items => "[" ++ Value.compactItems items ++ "]"
  | .obj fields => "\x7b" ++ Value.compactFields fields ++ "\x7d"

/-- The comma-separated texts of array elements. -/
def Value.compactItems : List Value → String
  | [] => ""
  | [v] => v.compact
  | v :: rest => v.compact ++ "," ++ Value.compactItems rest

/-- The comma-separated texts of object members. -/
def Value.compactFields : List (String × Value) → String
  | [] => ""
  | [(k, v)] => quote k ++ ":" ++ v.compact
  | (k, v) :: rest => quote k ++ ":" ++ v.compact ++ "," ++ Value.compactFields rest

end

instance : ToString Value := ⟨Value.compact⟩

end JobQuery.Json
