import JobQuery.Json.Value

/-!
# Reading JSON

A strict reader for JSON text (RFC 8259 grammar) that reads numbers and reports errors the
way the reference JSON reader does, so that both the values and the messages are the same.

Numbers:

* an integer literal that fits 64 bits (`0 .. 2^64-1`, or `-2^63 .. -1`) is an integer;
  `-0` and the other negative literals below `-2^63` are floats;
* every other literal is a float, computed the *fast* way: the decimal digits are gathered
  into a 64-bit significand (digits that no longer fit are dropped, moving the decimal
  exponent), the significand is rounded to a double, and that double is multiplied or
  divided by the double nearest to the power of ten. Each step rounds, so a long literal
  may land one step away from the double nearest to it;
* a float past the largest double is an error (`number out of range`).

Errors name what was wrong and where: `expected value at line 1 column 10`. The line counts
line feeds from 1; the column counts the bytes of the line up to and including the byte the
error is about. Errors found while looking at the next byte point at that byte; errors found
after consuming a byte point at the byte consumed.

Containers may nest 127 deep. Object members with the same key keep the last one.
-/

namespace JobQuery.Json

/-- Why a text is not JSON. -/
inductive SyntaxError where
  | eofWhileParsingList
  | eofWhileParsingObject
  | eofWhileParsingString
  | eofWhileParsingValue
  | expectedColon
  | expectedListCommaOrEnd
  | expectedObjectCommaOrEnd
  | expectedSomeIdent
  | expectedSomeValue
  | invalidEscape
  | invalidNumber
  | numberOutOfRange
  | controlCharacterWhileParsingString
  | keyMustBeAString
  | loneLeadingSurrogateInHexEscape
  | trailingComma
  | trailingCharacters
  | unexpectedEndOfHexEscape
  | recursionLimitExceeded
  deriving Repr, BEq, DecidableEq, Inhabited

/-- What an error says. -/
def SyntaxError.text : SyntaxError → String
  | .eofWhileParsingList => "EOF while parsing a list"
  | .eofWhileParsingObject => "EOF while parsing an object"
  | .eofWhileParsingString => "EOF while parsing a string"
  | .eofWhileParsingValue => "EOF while parsing a value"
  | .expectedColon => "expected `:`"
  | .expectedListCommaOrEnd => "expected `,` or `]`"
  | .expectedObjectCommaOrEnd => "expected `,` or `\x7d`"
  | .expectedSomeIdent => "expected ident"
  | .expectedSomeValue => "expected value"
  | .invalidEscape => "invalid escape"
  | .invalidNumber => "invalid number"
  | .numberOutOfRange => "number out of range"
  | .controlCharacterWhileParsingString =>
    "control character (\\u0000-\\u001F) found while parsing a string"
  | .keyMustBeAString => "key must be a string"
  | .loneLeadingSurrogateInHexEscape => "lone leading surrogate in hex escape"
  | .trailingComma => "trailing comma"
  | .trailingCharacters => "trailing characters"
  | .unexpectedEndOfHexEscape => "unexpected end of hex escape"
  | .recursionLimitExceeded => "recursion limit exceeded"

/-- An error and where it was found. -/
structure ReadError where
  error : SyntaxError
  line : Nat
  column : Nat
  deriving Repr, BEq, Inhabited

/-- The text of an error: what, then where. -/
def ReadError.text (e : ReadError) : String :=
  e.error.text ++ " at line " ++ toString e.line ++ " column " ++ toString e.column

namespace Reader

/-- A reader of part of a text: the text's bytes are read from an index on. -/
abbrev Read := ReaderT ByteArray (StateT Nat (Except ReadError))

/-- The line and column of a byte index: lines counted from 1, the column being the number
of bytes from the start of the line up to the index. -/
def positionOf (src : ByteArray) (i : Nat) : Nat × Nat :=
  let before := (src.extract 0 i).toList
  let lineStart := i - (before.reverse.takeWhile (· != 10)).length
  (1 + (before.take lineStart).count 10, i - lineStart)

/-- An error at the current index (about the byte just consumed). -/
def fail (e : SyntaxError) : Read α := do
  let (line, column) := positionOf (← read) (← get)
  throw { error := e, line, column }

/-- An error about the next byte. -/
def failPeek (e : SyntaxError) : Read α := do
  let (line, column) := positionOf (← read) (min (← read).size ((← get) + 1))
  throw { error := e, line, column }

/-- The next byte, if any. -/
def peek : Read (Option UInt8) := do return (← read)[← get]?

/-- Move past the next byte. -/
def eat : Read Unit := modify (· + 1)

/-- The next byte, consumed. -/
def next : Read (Option UInt8) := do
  let b ← peek
  if b.isSome then eat
  return b

/-- Whether a byte is a decimal digit. -/
def isDigit (b : UInt8) : Bool := 48 ≤ b && b ≤ 57

/-- The value of a decimal digit byte. -/
def digitValue (b : UInt8) : Nat := b.toNat - 48

/-- Skip whitespace; the next byte after it. -/
def skipWs : Nat → Read (Option UInt8)
  | 0 => peek
  | fuel + 1 => do
    match ← peek with
    | some b => if b == 32 || b == 10 || b == 9 || b == 13 then do eat; skipWs fuel else return some b
    | none => return none

/-- Skip decimal digits. -/
def skipDigits : Nat → Read Unit
  | 0 => pure ()
  | fuel + 1 => do
    match ← peek with
    | some b => if isDigit b then do eat; skipDigits fuel else pure ()
    | none => pure ()

/-- The rest of a keyword whose first letter was read. -/
def ident : List UInt8 → Read Unit
  | [] => pure ()
  | b :: rest => do
    match ← next with
    | none => fail .eofWhileParsingValue
    | some c => if c == b then ident rest else fail .expectedSomeIdent

-- ---------------------------------------------------------------------------
-- Numbers
-- ---------------------------------------------------------------------------

/-- The largest 64-bit unsigned integer. -/
def u64Max : Nat := Nat.pow 2 64 - 1

/-- The bounds of a 32-bit signed integer, where exponent arithmetic saturates. -/
def clampI32 (x : Int) : Int := max (-2147483648) (min 2147483647 x)

/-- The doubles nearest to the powers of ten `10^0 .. 10^308`. -/
def powerOfTen (i : Nat) : Binary64 := Binary64.ofDecimal false 1 i

/-- The float of a significand and a decimal exponent, the fast way: the significand as a
double, then one multiplication or division by the double nearest to the power of ten
(division by `1e308` first while the power is out of the table). A product past the
largest double is out of range. -/
def fromParts (positive : Bool) (significand : Nat) (exponent : Int) : Read Binary64 := do
  let rec go : Nat → Binary64 → Int → Read Binary64
    | 0, f, _ => return f
    | fuel + 1, f, e =>
      if e.natAbs ≤ 308 then
        if 0 ≤ e then
          let g := f * powerOfTen e.natAbs
          if g.isFinite then return g else fail .numberOutOfRange
        else return f / powerOfTen e.natAbs
      else if f.isZero then return f
      else if 0 ≤ e then fail .numberOutOfRange
      else go fuel (f / powerOfTen 308) (e + 308)
  let f ← go 16 (Binary64.ofNat significand) exponent
  return if positive then f else f.neg

/-- An exponent too large for 32 bits: out of range unless it makes the number zero. -/
def exponentOverflow (positive zeroSignificand positiveExp : Bool) : Read Binary64 := do
  if !zeroSignificand && positiveExp then fail .numberOutOfRange
  else
    skipDigits ((← read).size)
    return Binary64.zero (!positive)

/-- The exponent part, at its `e`. -/
def exponentPart (positive : Bool) (significand : Nat) (start : Int) : Read Binary64 := do
  eat
  let positiveExp ← match ← peek with
    | some 43 => do eat; pure true
    | some 45 => do eat; pure false
    | _ => pure true
  match ← next with
  | none => fail .eofWhileParsingValue
  | some c =>
    if !isDigit c then fail .invalidNumber
    else
      let rec digits : Nat → Nat → Read (Option Nat)
        | 0, x => return some x
        | fuel + 1, x => do
          match ← peek with
          | some d =>
            if isDigit d then do
              eat
              let y := x * 10 + digitValue d
              if y > 2147483647 then return none else digits fuel y
            else return some x
          | none => return some x
      match ← digits ((← read).size) (digitValue c) with
      | none => exponentOverflow positive (significand == 0) positiveExp
      | some x =>
        let final := clampI32 (if positiveExp then start + x else start - x)
        fromParts positive significand final

/-- Fraction digits once the significand is full: skipped. -/
def decimalOverflow (positive : Bool) (significand : Nat) (exponent : Int) : Read Binary64 := do
  skipDigits ((← read).size)
  match ← peek with
  | some 101 | some 69 => exponentPart positive significand exponent
  | _ => fromParts positive significand exponent

/-- The fraction part, at its `.`. At least one digit must follow, unless integer digits
were already dropped (the check is on the exponent, which those digits raised). -/
def decimalPart (positive : Bool) (significand : Nat) (exponent : Int) : Read Binary64 := do
  eat
  let rec digits : Nat → Nat → Int → Read (Sum (Nat × Int) (Nat × Int))
    | 0, m, e => return .inl (m, e)
    | fuel + 1, m, e => do
      match ← peek with
      | some d =>
        if isDigit d then
          if m * 10 + digitValue d > u64Max then return .inr (m, e)
          else do eat; digits fuel (m * 10 + digitValue d) (e - 1)
        else return .inl (m, e)
      | none => return .inl (m, e)
  match ← digits ((← read).size) significand exponent with
  | .inr (m, e) => decimalOverflow positive m e
  | .inl (m, e) =>
    if e == 0 then
      match ← peek with
      | some _ => failPeek .invalidNumber
      | none => failPeek .eofWhileParsingValue
    else
      match ← peek with
      | some 101 | some 69 => exponentPart positive m e
      | _ => fromParts positive m e

/-- Integer digits past 64 bits: dropped, each raising the decimal exponent. -/
def longInteger (positive : Bool) (significand : Nat) : Nat → Int → Read Binary64
  | 0, e => fromParts positive significand e
  | fuel + 1, e => do
    match ← peek with
    | some d =>
      if isDigit d then do eat; longInteger positive significand fuel (e + 1)
      else if d == 46 then decimalPart positive significand e
      else if d == 101 || d == 69 then exponentPart positive significand e
      else fromParts positive significand e
    | none => fromParts positive significand e

/-- A number after its integer digits. -/
def afterInteger (positive : Bool) (significand : Nat) : Read Number := do
  match ← peek with
  | some 46 => return .float (← decimalPart positive significand 0)
  | some 101 | some 69 => return .float (← exponentPart positive significand 0)
  | _ =>
    if positive then return .int significand
    else if significand == 0 then return .float (Binary64.zero true)
    else if significand ≤ Nat.pow 2 63 then return .int (-(significand : Int))
    else return .float (Binary64.ofNat significand).neg

/-- Integer digits after the first. -/
def integerDigits (positive : Bool) : Nat → Nat → Read Number
  | 0, m => afterInteger positive m
  | fuel + 1, m => do
    match ← peek with
    | some d =>
      if isDigit d then
        if m * 10 + digitValue d > u64Max then
          return .float (← longInteger positive m ((← read).size) 0)
        else do eat; integerDigits positive fuel (m * 10 + digitValue d)
      else afterInteger positive m
    | none => afterInteger positive m

/-- A number, after its sign. -/
def number (positive : Bool) : Read Number := do
  match ← next with
  | none => fail .eofWhileParsingValue
  | some c =>
    if c == 48 then
      match ← peek with
      | some d => if isDigit d then failPeek .invalidNumber else afterInteger positive 0
      | none => afterInteger positive 0
    else if isDigit c then integerDigits positive ((← read).size) (digitValue c)
    else fail .invalidNumber

-- ---------------------------------------------------------------------------
-- Strings
-- ---------------------------------------------------------------------------

/-- The value of a hex digit byte. -/
def hexValue (b : UInt8) : Option Nat :=
  if 48 ≤ b && b ≤ 57 then some (b.toNat - 48)
  else if 97 ≤ b && b ≤ 102 then some (b.toNat - 87)
  else if 65 ≤ b && b ≤ 70 then some (b.toNat - 55)
  else none

/-- Four hex digits of a `\u` escape. -/
def hexEscape : Read Nat := do
  let src ← read
  let i ← get
  if i + 4 ≤ src.size then
    set (i + 4)
    let ds := ((src.extract i (i + 4)).toList).map hexValue
    match ds with
    | [some a, some b, some c, some d] => return ((a * 16 + b) * 16 + c) * 16 + d
    | _ => fail .invalidEscape
  else
    set src.size
    fail .eofWhileParsingString

/-- The next byte of an escape, which must exist. -/
def peekInEscape : Read UInt8 := do
  match ← peek with
  | some b => return b
  | none => fail .eofWhileParsingString

/-- A `\u` escape after its `u`: a code point outside the surrogates, or a leading
surrogate followed by an escaped trailing one. -/
def unicodeEscape : Read Char := do
  let n ← hexEscape
  if 0xDC00 ≤ n && n ≤ 0xDFFF then fail .loneLeadingSurrogateInHexEscape
  else if n < 0xD800 || n > 0xDBFF then return Char.ofNat n
  else
    if (← peekInEscape) == 92 then eat else do eat; fail .unexpectedEndOfHexEscape
    if (← peekInEscape) == 117 then eat else do eat; fail .unexpectedEndOfHexEscape
    let n2 ← hexEscape
    if n2 < 0xDC00 || n2 > 0xDFFF then fail .loneLeadingSurrogateInHexEscape
    else return Char.ofNat ((((n - 0xD800) * 1024) + (n2 - 0xDC00)) + 0x10000)

/-- An escape after its backslash. -/
def escape : Read Char := do
  match ← next with
  | none => fail .eofWhileParsingString
  | some 34 => return '"'
  | some 92 => return '\\'
  | some 47 => return '/'
  | some 98 => return Char.ofNat 8
  | some 102 => return Char.ofNat 12
  | some 110 => return '\n'
  | some 114 => return '\r'
  | some 116 => return '\t'
  | some 117 => unicodeEscape
  | some _ => fail .invalidEscape

/-- The text of the bytes from `start` to the current index. -/
def chunk (start : Nat) : Read String := do
  return (String.fromUTF8? ((← read).extract start (← get))).getD ""

/-- The rest of a string after its opening quote (or after an escape), the text read so
far being `acc` and the unescaped run starting at `start`. -/
def stringBody : Nat → String → Nat → Read String
  | 0, acc, _ => return acc
  | fuel + 1, acc, start => do
    match ← peek with
    | none => fail .eofWhileParsingString
    | some 34 =>
      let part ← chunk start
      eat
      return acc ++ part
    | some 92 =>
      let part ← chunk start
      eat
      let c ← escape
      stringBody fuel ((acc ++ part).push c) (← get)
    | some b =>
      eat
      if b < 32 then fail .controlCharacterWhileParsingString
      else stringBody fuel acc start

/-- A string after its opening quote. -/
def string : Read String := do stringBody ((← read).size + 1) "" (← get)

-- ---------------------------------------------------------------------------
-- Values
-- ---------------------------------------------------------------------------

mutual

/-- One value, after optional whitespace; `depth` is how many more containers may open. -/
def value (depth : Nat) : Nat → Read Value
  | 0 => failPeek .recursionLimitExceeded
  | fuel + 1 => do
    match ← skipWs ((← read).size) with
    | none => failPeek .eofWhileParsingValue
    | some 110 => do eat; ident [117, 108, 108]; return .null
    | some 116 => do eat; ident [114, 117, 101]; return .bool true
    | some 102 => do eat; ident [97, 108, 115, 101]; return .bool false
    | some 45 => do eat; return .num (← number false)
    | some 34 => do eat; return .str (← string)
    | some 91 =>
      if depth ≤ 1 then failPeek .recursionLimitExceeded
      else do
        eat
        return .arr (← elements (depth - 1) fuel true [])
    | some 123 =>
      if depth ≤ 1 then failPeek .recursionLimitExceeded
      else do
        eat
        return Value.object (← members (depth - 1) fuel true [])
    | some b =>
      if isDigit b then return .num (← number true)
      else failPeek .expectedSomeValue

/-- Array elements after the opening bracket, up to and including the closing one. -/
def elements (depth : Nat) : Nat → Bool → List Value → Read (List Value)
  | 0, _, acc => return acc.reverse
  | fuel + 1, first, acc => do
    match ← skipWs ((← read).size) with
    | none => failPeek .eofWhileParsingList
    | some 93 => do eat; return acc.reverse
    | some b =>
      if first then
        let v ← value depth fuel
        elements depth fuel false (v :: acc)
      else if b == 44 then do
        eat
        match ← skipWs ((← read).size) with
        | some 93 => failPeek .trailingComma
        | some _ =>
          let v ← value depth fuel
          elements depth fuel false (v :: acc)
        | none => failPeek .eofWhileParsingValue
      else failPeek .expectedListCommaOrEnd

/-- Object members after the opening brace, up to and including the closing one. -/
def members (depth : Nat) : Nat → Bool → List (String × Value) →
    Read (List (String × Value))
  | 0, _, acc => return acc.reverse
  | fuel + 1, first, acc => do
    let key? ← match ← skipWs ((← read).size) with
      | some 125 => pure none
      | some 44 =>
        if first then pure (some (some (44 : UInt8)))
        else do eat; pure (some (← skipWs ((← read).size)))
      | some b =>
        if first then pure (some (some b)) else failPeek .expectedObjectCommaOrEnd
      | none => failPeek .eofWhileParsingObject
    match key? with
    | none => do eat; return acc.reverse
    | some (some 34) =>
      eat
      let k ← string
      match ← skipWs ((← read).size) with
      | some 58 => eat
      | some _ => failPeek .expectedColon
      | none => failPeek .eofWhileParsingObject
      let v ← value depth fuel
      members depth fuel false ((k, v) :: acc)
    | some (some 125) => failPeek .trailingComma
    | some (some _) => failPeek .keyMustBeAString
    | some none => failPeek .eofWhileParsingValue

end

end Reader

/-- Read a whole text as one JSON value, or say why it is not one. -/
def read (text : String) : Except ReadError Value :=
  let src := text.toUTF8
  let whole : Reader.Read Value := do
    let v ← Reader.value 128 (src.size + 2)
    match ← Reader.skipWs src.size with
    | some _ => Reader.failPeek .trailingCharacters
    | none => return v
  match (whole.run src).run 0 with
  | .ok (v, _) => .ok v
  | .error e => .error e

/-- Read a whole text as one JSON value; `none` when it is not valid JSON. -/
def parse (text : String) : Option Value :=
  match read text with
  | .ok v => some v
  | .error _ => none

end JobQuery.Json
