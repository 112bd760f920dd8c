import JobQuery.Config.Setting

/-!
# Reading settings into records

Typed records are read from a settings tree field by field, and a setting of the wrong kind
is an error that says what was found, what was expected, at which key, and from which source:

```
invalid type: found string "abc", expected u32 for key "SESSION.PAGE_SIZE" in `KQX_` environment variable(s)
```

The rules:

* a record reads a table: its entries are visited in key order; a key naming no field is
  ignored, a field met twice (directly or through an alias) is a `duplicate field`, and
  after the visit a field without a default that was not met is a `missing field`;
* an error about a value names the value's source; an error about a record (missing or
  duplicate field) names the table's source; the key is the path from the root;
* an integer field takes integers in its range (`invalid value` otherwise); an enumeration
  takes one of its variant names; a text field takes only text.

Keys are named as their source names them: `default.` followed by the dotted path for the
file, the upper-cased dotted path for environment variables.
-/

namespace JobQuery.Config

/-- An error met while reading settings into records. -/
structure ReadError where
  /-- What went wrong. -/
  kind : String
  /-- The key path from the root, outermost first. -/
  path : List String := []
  /-- The source of the setting the error is about, once known. -/
  origin : Option Origin := none
  deriving Repr, Inhabited

namespace ReadError

/-- Say which source the error is about, unless that is already said. -/
def retag (o : Option Origin) (e : ReadError) : ReadError :=
  if e.origin.isSome then e else { e with origin := o }

/-- The error as seen from the table holding `key`. -/
def under (key : String) (e : ReadError) : ReadError := { e with path := key :: e.path }

/-- The error's text, naming the file as `file` when it came from the TOML file. -/
def render (e : ReadError) (file : String) : String :=
  match e.origin with
  | none => e.kind
  | some .file =>
    e.kind ++ (if e.path.isEmpty then ""
      else " for key " ++ Text.debugStr ("default." ++ String.intercalate "." e.path)) ++
    " in " ++ file ++ " TOML file"
  | some .env =>
    e.kind ++ (if e.path.isEmpty then ""
      else " for key " ++ Text.debugStr (String.intercalate "." (e.path.map String.toUpper))) ++
    " in `KQX_` environment variable(s)"

end ReadError

/-- Reading settings. -/
abbrev Read := Except ReadError

/-- A setting of the wrong kind. -/
def invalidType (s : Setting) (expected : String) : ReadError :=
  { kind := "invalid type: found " ++ s.actual ++ ", expected " ++ expected, origin := s.origin? }

/-- A setting of the right kind but a refused value. -/
def invalidValue (s : Setting) (expected : String) : ReadError :=
  { kind := "invalid value " ++ s.actual ++ ", expected " ++ expected, origin := s.origin? }

/-- Alternatives as a message lists them. -/
def oneOf : List String → String
  | [] => "none"
  | [a] => "`" ++ a ++ "`"
  | [a, b] => "`" ++ a ++ "` or `" ++ b ++ "`"
  | xs => "one of " ++ String.intercalate ", " (xs.map fun x => "`" ++ x ++ "`")

/-- An unsigned integer of `bits` bits, named `name` in messages (`u32`, `u64`, `usize`). -/
def readUnsigned (bits : Nat) (name : String) (s : Setting) : Read Nat :=
  match s with
  | .nat _ n => if n < Nat.pow 2 bits then .ok n else .error (invalidValue s name)
  | .int _ i => if 0 ≤ i && i < Nat.pow 2 bits then .ok i.toNat else .error (invalidValue s name)
  | _ => .error (invalidType s name)

/-- A text. -/
def readText (s : Setting) : Read String :=
  match s with
  | .str _ v => .ok v
  | _ => .error (invalidType s "a string")

/-- One variant of an enumeration, by name: a text naming a variant, or a table whose first
key names one (with nothing as its value). Numbers are not variants. -/
def readVariant (enumName : String) (variants : List String) (s : Setting) : Read String :=
  let unknown := fun (v : String) => ReadError.mk
    ("unknown variant: found `" ++ v ++ "`, expected `" ++ oneOf variants ++ "`") [] s.origin?
  match s with
  | .str _ v => if variants.contains v then .ok v else .error (unknown v)
  | .table o [] => .error { kind := "invalid type: found map, expected enum", origin := o }
  | .table o ((k, v) :: _) =>
    if variants.contains k then
      .error ((invalidType v "unit").under k |>.retag o)
    else .error ({ unknown k with origin := o }.under k)
  | _ => .error (invalidType s ("enum " ++ enumName))

/-- An optional value: present settings are read with `read`. -/
def readOptional (read : Setting → Read α) (s : Setting) : Read (Option α) :=
  (read s).map some

/-- A field of a record: its name, its aliases, and how its value is checked. -/
structure FieldSpec where
  name : String
  aliases : List String := []
  check : Setting → Read Unit

/-- A field whose values are read with `read`. -/
def FieldSpec.of (name : String) (read : Setting → Read α) (aliases : List String := []) :
    FieldSpec :=
  { name, aliases, check := fun s => (read s).map fun _ => () }

/-- The fields of a record met in a table: for each field name, the setting found. Entries
are visited in key order; values are checked as they are met. -/
def visitFields (fields : List FieldSpec) (entries : List (String × Setting)) :
    Read (List (String × Setting)) :=
  entries.foldlM (fun acc (k, v) =>
    match fields.find? fun f => f.name == k || f.aliases.contains k with
    | none => .ok acc
    | some f =>
      if acc.any (·.1 == f.name) then .error { kind := "duplicate field `" ++ f.name ++ "`" }
      else match f.check v with
        | .ok () => .ok (acc ++ [(f.name, v)])
        | .error e => .error (e.under k)) []

/-- The fields of a record named `recordName` read from a setting, each checked; `required`
lists the fields without a default, in declaration order. -/
def readRecord (recordName : String) (fields : List FieldSpec) (required : List String)
    (s : Setting) : Read (List (String × Setting)) :=
  match s with
  | .table o entries =>
    (do
      let found ← visitFields fields entries
      match required.find? fun r => !found.any (·.1 == r) with
      | some r => .error { kind := "missing field `" ++ r ++ "`" }
      | none => .ok found).mapError (ReadError.retag o)
  | _ => .error (invalidType s ("struct " ++ recordName))

/-- The value of a field found by `readRecord`, or its default. -/
def fieldOr (found : List (String × Setting)) (name : String) (read : Setting → Read α)
    (default : α) : Read α :=
  match found.lookup name with
  | some s => read s
  | none => .ok default

end JobQuery.Config
