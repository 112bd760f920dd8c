/-!
# Numerals and identifiers

Reading unsigned decimal numerals the way the service reads query parameters, 32- and 64-bit
arithmetic that refuses to overflow, and minting job identifiers.

An unsigned numeral is an optional `+` followed by at least one decimal digit and nothing
else; its value must fit the target width. A minus sign, blanks, or an empty text are not
numerals.

Identifiers are 36-character UUID texts (`8-4-4-4-12` lower-case hex digits, version 4,
variant 1). `mintUuid space n` gives the `n`-th identifier of a numbering space; different
`(space, n)` pairs give different identifiers, which is all a job table needs.
-/

namespace JobQuery.Text

/-- The value of an unsigned numeral below `bound`, if the text is one. -/
def parseUnsigned (s : String) (bound : Nat) : Option Nat :=
  let cs := match s.toList with
    | '+' :: rest => rest
    | cs => cs
  if cs.isEmpty || !cs.all Char.isDigit then none
  else
    let n := cs.foldl (fun n c => n * 10 + (c.toNat - 48)) 0
    if n < bound then some n else none

/-- A 64-bit unsigned numeral. -/
def parseU64 (s : String) : Option Nat := parseUnsigned s (Nat.pow 2 64)

/-- A 32-bit unsigned sum, or the overflow it would be. -/
def addU32 (a b : Nat) : Except String Nat :=
  if a + b < Nat.pow 2 32 then .ok (a + b) else .error "attempt to add with overflow"

/-- A 64-bit unsigned sum, or the overflow it would be. -/
def addU64 (a b : Nat) : Except String Nat :=
  if a + b < Nat.pow 2 64 then .ok (a + b) else .error "attempt to add with overflow"

/-- A 64-bit unsigned product, or the overflow it would be. -/
def mulU64 (a b : Nat) : Except String Nat :=
  if a * b < Nat.pow 2 64 then .ok (a * b) else .error "attempt to multiply with overflow"

/-- `n` as exactly `width` lower-case hex digits (the low ones). -/
def hexFixed (width : Nat) (n : Nat) : String :=
  String.ofList ((List.range width).reverse.map fun i =>
    let d := (n / Nat.pow 16 i) % 16
    if d < 10 then Char.ofNat (48 + d) else Char.ofNat (87 + d))

/-- The `n`-th identifier of numbering space `space`. -/
def mintUuid (space : Nat) (n : Nat) : String :=
  hexFixed 8 (0x5eed0000 + space) ++ "-" ++ hexFixed 4 (n / Nat.pow 16 12) ++ "-4" ++
    hexFixed 3 space ++ "-8000-" ++ hexFixed 12 n

end JobQuery.Text
