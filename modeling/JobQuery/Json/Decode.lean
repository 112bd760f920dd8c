import JobQuery.Json.Print
import JobQuery.Text.Debug

/-!
# Typed decoding of JSON values

Decoders turn a `Value` into a typed value or explain, in one sentence, why they cannot.
The sentences are those of the reference JSON data-binding conventions, so a message seen
by a user is stable and can be matched on:

* `invalid type: <found>, expected <what>` when the value has the wrong kind,
* `invalid value: <found>, expected <what>` when it has the right kind but is out of range,
* `missing field` / `duplicate field` / `unknown variant` / `invalid length` for structure.

Structures are read from an object, or positionally from an array. From an object the
member values are checked in key order (the order objects are stored in) and the first bad
one is reported; only then are missing fields reported, in declaration order. Unknown
members are ignored. From an array the fields are read in declaration order, a field with a
default may be left out at the end, and surplus elements are refused.

Unit enumerations are read from their name, or from a one-member object whose value is
`null`.
-/

namespace JobQuery.Json

open JobQuery.Text

/-- What a decoder found where it wanted something else. -/
inductive Found where
  | null
  | bool (b : Bool)
  | unsigned (n : Nat)
  | signed (i : Int)
  | float (value : Binary64)
  | str (s : String)
  | seq
  | map
  deriving Repr, BEq, Inhabited

/-- The kind of a value, as a decoder reports it. -/
def Found.ofValue : Value → Found
  | .null => .null
  | .bool b => .bool b
  | .num (.int i) => if 0 ≤ i then .unsigned i.toNat else .signed i
  | .num (.float f) => .float f
  | .str s => .str s
  | .arr _ => .seq
  | .obj _ => .map

/-- How a found value is named in a message. -/
def Found.text : Found → String
  | .null => "null"
  | .bool b => "boolean `" ++ toString b ++ "`"
  | .unsigned n => "integer `" ++ toString n ++ "`"
  | .signed i => "integer `" ++ toString i ++ "`"
  | .float f => "floating point `" ++ f.jsonText ++ "`"
  | .str s => "string " ++ debugStr s
  | .seq => "sequence"
  | .map => "map"

/-- Why a value could not be decoded. -/
inductive DecodeError where
  | invalidType (found : Found) (expected : String)
  | invalidValue (found : Found) (expected : String)
  | invalidLength (length : Nat) (expected : String)
  | unknownVariant (name : String) (variants : List String)
  | missingField (name : String)
  | duplicateField (name : String)
  deriving Repr, BEq, Inhabited

/-- A list of names in backquotes: one, two joined by `or`, or `one of` a list. -/
def oneOf (names : List String) : String :=
  match names with
  | [] => "nothing"
  | [a] => "`" ++ a ++ "`"
  | [a, b] => "`" ++ a ++ "` or `" ++ b ++ "`"
  | _ => "one of " ++ ", ".intercalate (names.map fun n => "`" ++ n ++ "`")

/-- The one-sentence explanation of a decoding failure. -/
def DecodeError.message : DecodeError → String
  | .invalidType f e => "invalid type: " ++ f.text ++ ", expected " ++ e
  | .invalidValue f e => "invalid value: " ++ f.text ++ ", expected " ++ e
  | .invalidLength n e => "invalid length " ++ toString n ++ ", expected " ++ e
  | .unknownVariant n vs => "unknown variant `" ++ n ++ "`, expected " ++ oneOf vs
  | .missingField n => "missing field `" ++ n ++ "`"
  | .duplicateField n => "duplicate field `" ++ n ++ "`"

/-- A decoder of values of type `α`. -/
abbrev Decoder (α : Type) := Value → Except DecodeError α

namespace Decoder

/-- Any value, unchanged. -/
def any : Decoder Value := fun v => .ok v

/-- A string. -/
def string : Decoder String := fun v =>
  match v with
  | .str s => .ok s
  | other => .error (.invalidType (Found.ofValue other) "a string")

/-- A boolean. -/
def bool : Decoder Bool := fun v =>
  match v with
  | .bool b => .ok b
  | other => .error (.invalidType (Found.ofValue other) "a boolean")

/-- An integer in `[lo, hi]`; `name` is the integer type named in messages. -/
def intRange (name : String) (lo hi : Int) : Decoder Int := fun v =>
  match v with
  | .num (.int i) =>
    if lo ≤ i ∧ i ≤ hi then .ok i else .error (.invalidValue (Found.ofValue v) name)
  | other => .error (.invalidType (Found.ofValue other) name)

/-- A natural number below `bound`; `name` is the integer type named in messages. -/
def natBelow (name : String) (bound : Nat) : Decoder Nat := fun v =>
  (intRange name 0 (bound - 1 : Nat) v).map Int.toNat

/-- A 32-bit unsigned integer. -/
def u32 : Decoder Nat := natBelow "u32" (Nat.pow 2 32)

/-- A 64-bit unsigned integer. -/
def u64 : Decoder Nat := natBelow "u64" (Nat.pow 2 64)

/-- A machine-word unsigned integer. -/
def usize : Decoder Nat := natBelow "usize" (Nat.pow 2 64)

/-- A 32-bit signed integer. -/
def i32 : Decoder Int := intRange "i32" (-(Nat.pow 2 31)) (Nat.pow 2 31 - 1)

/-- A 64-bit signed integer. -/
def i64 : Decoder Int := intRange "i64" (-(Nat.pow 2 63)) (Nat.pow 2 63 - 1)

/-- `null` as `none`, anything else through `d`. -/
def option (d : Decoder α) : Decoder (Option α) := fun v =>
  match v with
  | .null => .ok none
  | other => (d other).map some

/-- Decode every element of a list, stopping at the first failure. -/
def each (d : Decoder α) : List Value → Except DecodeError (List α)
  | [] => .ok []
  | v :: rest => do
    let a ← d v
    let as ← each d rest
    pure (a :: as)

/-- An array, element by element. -/
def list (d : Decoder α) : Decoder (List α) := fun v =>
  match v with
  | .arr items => each d items
  | other => .error (.invalidType (Found.ofValue other) "a sequence")

/-- Look a variant name up in a table of names. -/
def variant (table : List (String × α)) (name : String) : Except DecodeError α :=
  match table.find? (fun e => e.1 == name) with
  | some e => .ok e.2
  | none => .error (.unknownVariant name (table.map Prod.fst))

/-- A unit enumeration: a variant name, or an object with one member (the name) whose
value is `null`. -/
def unitEnum (table : List (String × α)) : Decoder α := fun v =>
  match v with
  | .str s => variant table s
  | .obj [(k, inner)] => do
    let a ← variant table k
    match inner with
    | .null => .ok a
    | other => .error (.invalidType (Found.ofValue other) "unit")
  | .obj _ => .error (.invalidValue .map "map with a single key")
  | other => .error (.invalidType (Found.ofValue other) "string or map")

end Decoder

/-! ## Structures -/

/-- One field of a structure: its name, the other names it is accepted under, and the check
of a value given for it. -/
structure Field where
  name : String
  aliases : List String := []
  check : Value → Option DecodeError

/-- A field read by decoder `d`. -/
def Field.of (name : String) (d : Decoder α) (aliases : List String := []) : Field :=
  { name, aliases, check := fun v => match d v with
      | .ok _ => none
      | .error e => some e }

/-- Whether a member key names this field. -/
def Field.accepts (f : Field) (key : String) : Bool :=
  f.name == key || f.aliases.contains key

/-- A structure: its type name and its fields in declaration order. -/
structure Shape where
  name : String
  fields : List Field

/-- Where the value of a field comes from while a structure is built. -/
inductive Slot where
  /-- The value given for the field. -/
  | given (v : Value)
  /-- The object has no member for the field. -/
  | absent (name : String)
  /-- The array ended before position `index`; `expecting` describes the structure. -/
  | pastEnd (index : Nat) (expecting : String)

/-- A field that must be present. -/
def Slot.required (d : Decoder α) : Slot → Except DecodeError α
  | .given v => d v
  | .absent name => .error (.missingField name)
  | .pastEnd i expecting => .error (.invalidLength i expecting)

/-- A field that takes `dflt` when it is not given. -/
def Slot.withDefault (d : Decoder α) (dflt : α) : Slot → Except DecodeError α
  | .given v => d v
  | _ => .ok dflt

/-- An optional field: `none` when not given or `null`. -/
def Slot.optional (d : Decoder α) (s : Slot) : Except DecodeError (Option α) :=
  s.withDefault (Decoder.option d) none

/-- The first bad member of an object, in key order; a field given twice (under its name
and an alias) is a duplicate. -/
def Shape.firstError (shape : Shape) : List (String × Value) → List String → Option DecodeError
  | [], _ => none
  | (k, v) :: rest, seen =>
    match shape.fields.find? (fun f => f.accepts k) with
    | none => shape.firstError rest seen
    | some f =>
      if seen.contains f.name then some (.duplicateField f.name)
      else match f.check v with
        | some e => some e
        | none => shape.firstError rest (f.name :: seen)

/-- The slot of a field in an object. -/
def Shape.memberSlot (shape : Shape) (members : List (String × Value)) (name : String) : Slot :=
  match shape.fields.find? (fun f => f.name == name) with
  | none => .absent name
  | some f =>
    match members.find? (fun kv => f.accepts kv.1) with
    | some kv => .given kv.2
    | none => .absent name

/-- What a positional reading of the structure expects, for length messages. -/
def Shape.expecting (shape : Shape) : String :=
  "struct " ++ shape.name ++ " with " ++ toString shape.fields.length ++ " element" ++
    (if shape.fields.length == 1 then "" else "s")

/-- The slot of a field in a positional reading. -/
def Shape.elementSlot (shape : Shape) (items : List Value) (name : String) : Slot :=
  match shape.fields.findIdx? (fun f => f.name == name) with
  | none => .absent name
  | some i =>
    match items[i]? with
    | some v => .given v
    | none => .pastEnd i shape.expecting

/-- Decode a structure of the given shape; `build` assembles it from the slots of its
fields, in declaration order. -/
def Shape.decode (shape : Shape) (build : (String → Slot) → Except DecodeError α) :
    Decoder α := fun v =>
  match v with
  | .obj members =>
    match shape.firstError members [] with
    | some e => .error e
    | none => build (shape.memberSlot members)
  | .arr items =>
    match build (shape.elementSlot items) with
    | .error e => .error e
    | .ok a =>
      if items.length > shape.fields.length then
        .error (.invalidLength items.length "fewer elements in array")
      else .ok a
  | other => .error (.invalidType (Found.ofValue other) ("struct " ++ shape.name))

end JobQuery.Json
