/-!
# Percent-encoding

URLs carry arbitrary text by writing bytes as `%XX` (two upper-case hex digits). Which
characters are written this way depends on the part of the URL: each part has an *encode
set*, a predicate on ASCII characters. A character outside ASCII is always encoded, one
`%XX` per byte of its UTF-8 form.

The sets nest: controls ⊂ fragment ⊂ path ⊂ path segment, and query ⊂ special query.

Form encoding (`application/x-www-form-urlencoded`, used for query pairs) is a separate
scheme: ASCII letters, digits and `*-._` stay, a space becomes `+`, every other byte is
`%XX`.
-/

namespace JobQuery.Net

/-- An upper-case hex digit. -/
def hexDigitUpper (n : Nat) : Char :=
  if n < 10 then Char.ofNat (48 + n) else Char.ofNat (55 + n)

/-- A byte as `%XX`. -/
def percentByte (b : UInt8) : String :=
  String.ofList ['%', hexDigitUpper (b.toNat / 16), hexDigitUpper (b.toNat % 16)]

/-- An encode set: the ASCII characters a part of a URL writes as `%XX`. -/
abbrev EncodeSet := Char → Bool

/-- ASCII controls and DEL. -/
def controlSet : EncodeSet := fun c => c.toNat < 0x20 || c.toNat == 0x7F

/-- Characters encoded in a fragment. -/
def fragmentSet : EncodeSet := fun c => controlSet c || " \"<>`".contains c

/-- Characters encoded in a query. -/
def querySet : EncodeSet := fun c => controlSet c || " \"#<>".contains c

/-- Characters encoded in the query of a URL with a special scheme (`http`, `https`, ...). -/
def specialQuerySet : EncodeSet := fun c => querySet c || c.toNat == 39

/-- Characters encoded in a path. -/
def pathSet : EncodeSet := fun c => fragmentSet c || "#?\x7b\x7d".contains c

/-- Characters encoded in a user name or password. -/
def userinfoSet : EncodeSet := fun c => pathSet c || "/:;=@[\\]^|".contains c

/-- Characters encoded in one path segment added to a URL: a slash or a percent sign in it
must not read as a separator or an escape. -/
def segmentSet : EncodeSet := fun c => pathSet c || c == '/' || c == '%'

/-- `segmentSet` for special schemes, where a backslash also separates segments. -/
def specialSegmentSet : EncodeSet := fun c => segmentSet c || c == '\\'

/-- One character, encoded when it is outside ASCII or in `set`. -/
def encodeChar (set : EncodeSet) (c : Char) : String :=
  if c.toNat < 0x80 && !set c then c.toString
  else String.join ((String.utf8EncodeChar c).map percentByte)

/-- Characters encoded with `set`. -/
def encodeWith (set : EncodeSet) (cs : List Char) : String :=
  String.join (cs.map (encodeChar set))

/-- One byte in form encoding. -/
def formByte (b : UInt8) : String :=
  let c := Char.ofNat b.toNat
  if b.toNat == 0x20 then "+"
  else if b.toNat < 0x80 && (c.isAlphanum || "*-._".contains c) then c.toString
  else percentByte b

/-- A text in form encoding. -/
def formEncode (s : String) : String :=
  String.join (s.toUTF8.toList.map formByte)

/-- The value of a hex digit. -/
def hexValue (c : Char) : Option Nat :=
  if c.isDigit then some (c.toNat - 48)
  else if 'a' ≤ c && c ≤ 'f' then some (c.toNat - 87)
  else if 'A' ≤ c && c ≤ 'F' then some (c.toNat - 55)
  else none

/-- Bytes with every `%XX` escape replaced by its byte; a `%` without two hex digits after it
stays as it is. -/
def percentDecodeBytes : List UInt8 → List UInt8
  | [] => []
  | b :: h :: l :: more =>
    match b.toNat == 0x25, hexValue (Char.ofNat h.toNat), hexValue (Char.ofNat l.toNat) with
    | true, some hv, some lv => UInt8.ofNat (hv * 16 + lv) :: percentDecodeBytes more
    | _, _, _ => b :: percentDecodeBytes (h :: l :: more)
  | b :: rest => b :: percentDecodeBytes rest
termination_by bs => bs.length

end JobQuery.Net
