import JobQuery.Config.Setting

/-!
# TOML documents under construction

The tables of a TOML document as its lines define them, with the rules that keep a document
well formed: a key is defined once, a table header appears once, dotted keys do not extend
tables defined by headers, and nothing extends a value that is not a table.

A document is a map from paths to what they hold. Key-value lines go to the *current* table,
the one the last header opened (the root before any header). Inline tables are built the
same way, from their own root, with one difference in what a clash is: there a dotted key
running into an inline table defined by its own `{...}` is a duplicate key, where at the
top level it is an attempt to extend a value.
-/

namespace JobQuery.Config.Toml

/-- A key as a document line writes it: its name, and its text (with quotes, if quoted). -/
structure KeyPart where
  name : String
  raw : String
  deriving Repr, BEq, Inhabited

/-- One step of a path into a document: a key, or an element of an array of tables. -/
inductive Step where
  | key (name : String)
  | item (index : Nat)
  deriving Repr, BEq, Inhabited

/-- What a path of a document holds. -/
inductive Slot where
  | value (v : Setting)
  /-- A table; `explicit` when a header defined it, `dotted` when dotted keys made it. -/
  | table (explicit dotted : Bool)
  /-- An array of tables with this many elements. -/
  | tables (count : Nat)
  deriving Repr, Inhabited

/-- Why a key or header breaks the rules on tables. -/
inductive Clash where
  /-- A key defined twice; the table path names where, when known. -/
  | duplicate (key : String) (table : Option (List String))
  /-- A dotted key running into a value. -/
  | extend (key : List String) (kind : String)
  deriving Repr, Inhabited

/-- The message of a clash. -/
def Clash.message : Clash → String
  | .duplicate k none => "duplicate key `" ++ k ++ "`"
  | .duplicate k (some []) => "duplicate key `" ++ k ++ "` in document root"
  | .duplicate k (some t) => "duplicate key `" ++ k ++ "` in table `" ++ String.intercalate "." t ++ "`"
  | .extend k kind =>
    "dotted key `" ++ String.intercalate "." k ++ "` attempted to extend non-table type (" ++
      kind ++ ")"

/-- How the rules on tables name a value's type. -/
def typeName : Setting → String
  | .str .. => "string"
  | .int .. => "integer"
  | .nat .. => "integer"
  | .float .. => "float"
  | .bool .. => "boolean"
  | .list .. => "array"
  | .table _ [("$__toml_private_datetime", _)] => "datetime"
  | .table .. => "inline table"

/-- A document under construction: what each path holds, and the table that keys go to. -/
structure Doc where
  slots : List (List Step × Slot) := []
  current : List Step := []
  currentKeys : List String := []
  deriving Inhabited

namespace Doc

/-- What a path holds. -/
def slotAt (d : Doc) (path : List Step) : Option Slot :=
  (d.slots.find? (·.1 == path)).map (·.2)

/-- Set what a path holds. -/
def put (d : Doc) (path : List Step) (s : Slot) : Doc :=
  if d.slots.any (·.1 == path) then
    { d with slots := d.slots.map fun (p, old) => if p == path then (p, s) else (p, old) }
  else { d with slots := d.slots ++ [(path, s)] }

/-- Walk `keys` down from `base`, making missing tables (dotted ones when `dotted`); an
array of tables leads into its last element. The path reached. -/
def descend (d : Doc) (base : List Step) (keys : List String) (dotted : Bool) :
    Except Clash (List Step × Doc) :=
  keys.zipIdx.foldlM (fun (path, d) (k, i) =>
    let next := path ++ [.key k]
    match d.slotAt next with
    | none => .ok (next, d.put next (.table false dotted))
    | some (.value v) => .error (.extend (keys.take (i + 1)) (typeName v))
    | some (.tables n) => .ok (next ++ [.item (n - 1)], d)
    | some (.table explicit _) =>
      if dotted && explicit then .error (.duplicate k none) else .ok (next, d)) (base, d)

/-- Walk `keys` down from `base` inside an inline table, making missing (dotted) tables. An
inline table value met on the way is a table its braces defined: a dotted key may not
enter it. -/
def descendInline (d : Doc) (base : List Step) (keys : List String) :
    Except Clash (List Step × Doc) :=
  keys.zipIdx.foldlM (fun (path, d) (k, i) =>
    let next := path ++ [.key k]
    match d.slotAt next with
    | none => .ok (next, d.put next (.table false true))
    | some (.value v) =>
      if typeName v == "inline table" then .error (.duplicate k none)
      else .error (.extend (keys.take (i + 1)) (typeName v))
    | some (.tables n) => .ok (next ++ [.item (n - 1)], d)
    | some (.table explicit _) =>
      if explicit then .error (.duplicate k none) else .ok (next, d)) (base, d)

/-- Define `keys = v` in the current table. In an inline table (`inline`), a clash names no
table, and an inline table met on the way counts as a table defined by its own braces. -/
def insertValue (d : Doc) (keys : List String) (v : Setting) (inline : Bool := false) :
    Except Clash Doc := do
  let some last := keys.getLast? | .error (.duplicate "" none)
  let prefixKeys := keys.dropLast
  let (path, d) ← if inline then d.descendInline d.current prefixKeys
    else d.descend d.current prefixKeys true
  let isDotted := match d.slotAt path with
    | some (.table _ dotted) => dotted
    | _ => false
  if isDotted == prefixKeys.isEmpty then .error (.duplicate last none)
  let target := path ++ [.key last]
  match d.slotAt target with
  | some _ => .error (.duplicate last (if inline then none else some d.currentKeys))
  | none => .ok (d.put target (.value v))

/-- Start the table of a `[keys]` header. A clash names the key as written. -/
def openTable (d : Doc) (keys : List KeyPart) : Except Clash Doc := do
  let some last := keys.getLast? | .error (.duplicate "" none)
  let names := keys.map (·.name)
  let (parent, d) ← d.descend [] names.dropLast false
  let path := parent ++ [.key last.name]
  let d ← match d.slotAt path with
    | none => .ok (d.put path (.table true false))
    | some (.table false false) => .ok (d.put path (.table true false))
    | _ => .error (.duplicate last.raw (some names.dropLast))
  return { d with current := path, currentKeys := names }

/-- Start a new element of the array of tables of a `[[keys]]` header. -/
def openArrayTable (d : Doc) (keys : List KeyPart) : Except Clash Doc := do
  let some last := keys.getLast? | .error (.duplicate "" none)
  let names := keys.map (·.name)
  let (parent, d) ← d.descend [] names.dropLast false
  let path := parent ++ [.key last.name]
  match d.slotAt path with
  | none => return { d.put path (.tables 1) with current := path ++ [.item 0], currentKeys := names }
  | some (.tables n) =>
    return { d.put path (.tables (n + 1)) with current := path ++ [.item n], currentKeys := names }
  | _ => .error (.duplicate last.raw (some names.dropLast))

/-- The entries directly under a path, as settings, in key order. -/
def build (d : Doc) : (fuel : Nat) → List Step → List (String × Setting)
  | 0, _ => []
  | fuel + 1, pre =>
    let children := d.slots.filterMap fun (p, s) =>
      if p.length == pre.length + 1 && pre.isPrefixOf p then
        match p.getLast? with
        | some (.key k) => some (k, s)
        | _ => none
      else none
    children.foldl (fun acc (k, s) =>
      let v : Setting := match s with
        | .value v => v
        | .table .. => .table (some .file) (d.build fuel (pre ++ [.key k]))
        | .tables n => .list .file ((List.range n).map fun i =>
            .table (some .file) (d.build fuel (pre ++ [.key k, .item i])))
      insertSorted k v acc) []

/-- The whole document as a table of settings. -/
def toSetting (d : Doc) : Setting :=
  .table (some .file) (d.build (2 * d.slots.length + 2) [])

end Doc


end JobQuery.Config.Toml
