import JobQuery.Json.Value

/-!
# Masking generated identifiers

Job ids minted by the library and by the in-memory service are random version-4 UUIDs, so
reports that mention them are compared after masking: every 36-character run of the form
`8-4-4-4-12` lower-case hexadecimal digits becomes `<uuid-N>`, where `N` numbers the distinct
UUIDs from 1 in the order they are first met. The walk visits a document in its canonical
order: object keys in increasing order, each key before its value, array items in order.

`replaceAll` substitutes text, for machine-specific parts of a report (an address, a
temporary path) that are masked the same way before UUIDs are.
-/

namespace JobQuery.Json

/-- A lower-case hexadecimal digit. -/
def isLowerHex (c : Char) : Bool := c.isDigit || ('a' ≤ c && c ≤ 'f')

/-- The shape of a UUID: digit groups of 8, 4, 4, 4 and 12 separated by dashes. -/
def uuidShape : List Bool :=
  List.replicate 8 true ++ [false] ++ List.replicate 4 true ++ [false] ++
  List.replicate 4 true ++ [false] ++ List.replicate 4 true ++ [false] ++ List.replicate 12 true

/-- Whether the first 36 characters form a UUID. -/
def startsWithUuid (cs : List Char) : Bool :=
  cs.length ≥ 36 &&
    ((cs.take 36).zip uuidShape).all fun (c, hex) => if hex then isLowerHex c else c == '-'

/-- The masks handed out so far, in order. -/
abbrev MaskTable := List String

/-- The mask of a UUID, handing out the next number to a new one. -/
def maskOf (u : String) (t : MaskTable) : String × MaskTable :=
  match t.idxOf? u with
  | some i => ("<uuid-" ++ toString (i + 1) ++ ">", t)
  | none => ("<uuid-" ++ toString (t.length + 1) ++ ">", t ++ [u])

/-- Mask the UUIDs of a character list, left to right. -/
def maskChars (t : MaskTable) (acc : List Char) : List Char → Nat → List Char × MaskTable
  | [], _ => (acc.reverse, t)
  | _, 0 => (acc.reverse, t)
  | c :: cs, fuel + 1 =>
    if startsWithUuid (c :: cs) then
      let (m, t) := maskOf (String.ofList ((c :: cs).take 36)) t
      maskChars t (m.toList.reverse ++ acc) ((c :: cs).drop 36) fuel
    else maskChars t (c :: acc) cs fuel

/-- Mask the UUIDs of a string. -/
def maskString (t : MaskTable) (s : String) : String × MaskTable :=
  let (cs, t) := maskChars t [] s.toList (s.length + 1)
  (String.ofList cs, t)

mutual

/-- Mask the UUIDs of a value, in canonical order. -/
def maskValue (t : MaskTable) : Value → Value × MaskTable
  | .str s =>
    let (s, t) := maskString t s
    (.str s, t)
  | .arr items =>
    let (items, t) := maskItems t items
    (.arr items, t)
  | .obj fields =>
    let (fields, t) := maskFields t fields
    (Value.object fields, t)
  | v => (v, t)

/-- Mask the UUIDs of array items, in order. -/
def maskItems (t : MaskTable) : List Value → List Value × MaskTable
  | [] => ([], t)
  | v :: rest =>
    let (v, t) := maskValue t v
    let (rest, t) := maskItems t rest
    (v :: rest, t)

/-- Mask the UUIDs of object members, each key before its value. -/
def maskFields (t : MaskTable) : List (String × Value) → List (String × Value) × MaskTable
  | [] => ([], t)
  | (k, v) :: rest =>
    let (k, t) := maskString t k
    let (v, t) := maskValue t v
    let (rest, t) := maskFields t rest
    ((k, v) :: rest, t)

end

/-- A document with its UUIDs masked. The document is assumed canonical (keys sorted). -/
def Value.maskUuids (v : Value) : Value := (maskValue [] v).1

/-- Replace every occurrence of `pattern` in `s` by `replacement`. -/
def replaceAll (s pattern replacement : String) : String :=
  if pattern.isEmpty then s else s.replace pattern replacement

mutual

/-- Apply a text substitution to every string and key of a value. -/
def mapStrings (f : String → String) : Value → Value
  | .str s => .str (f s)
  | .arr items => .arr (mapItems f items)
  | .obj fields => Value.object (mapFields f fields)
  | v => v

/-- `mapStrings` on array items. -/
def mapItems (f : String → String) : List Value → List Value
  | [] => []
  | v :: rest => mapStrings f v :: mapItems f rest

/-- `mapStrings` on object members. -/
def mapFields (f : String → String) : List (String × Value) → List (String × Value)
  | [] => []
  | (k, v) :: rest => (f k, mapStrings f v) :: mapFields f rest

end

end JobQuery.Json
