import JobQuery.Text.Debug
import JobQuery.Number.Binary64

/-!
# Settings

A configuration is a tree of *settings*, gathered from several sources (a TOML file,
environment variables) and merged before it is read into typed records. Every setting
remembers its source, so that an error about it can say where it came from.

Numbers keep the kind their source gave them: TOML integers are signed, environment values
that read as unsigned integers are unsigned, and floats are doubles.

Tables keep their keys in sorted order; they are read in that order.
-/

namespace JobQuery.Config

/-- Where a setting came from. -/
inductive Origin where
  /-- The TOML file. -/
  | file
  /-- The environment variables. -/
  | env
  deriving Repr, BEq, DecidableEq, Inhabited

/-- A setting. -/
inductive Setting where
  | str (origin : Origin) (value : String)
  | int (origin : Origin) (value : Int)
  | nat (origin : Origin) (value : Nat)
  /-- A float. -/
  | float (origin : Origin) (value : Binary64)
  | bool (origin : Origin) (value : Bool)
  | list (origin : Origin) (items : List Setting)
  /-- A table; the origin is absent for the root of a merged configuration. -/
  | table (origin : Option Origin) (entries : List (String × Setting))
  deriving Repr, Inhabited

namespace Setting

/-- The source of a setting. -/
def origin? : Setting → Option Origin
  | .str o _ | .int o _ | .nat o _ | .float o _ | .bool o _ | .list o _ => some o
  | .table o _ => o

/-- How an error message names what a setting holds. -/
def actual : Setting → String
  | .str _ s => "string " ++ Text.debugStr s
  | .int _ i => "signed int `" ++ toString i ++ "`"
  | .nat _ n => "unsigned int `" ++ toString n ++ "`"
  | .float _ f => "float `" ++ f.display ++ "`"
  | .bool _ b => "bool " ++ toString b
  | .list _ _ => "sequence"
  | .table _ _ => "map"

end Setting

/-- Insert a key into sorted entries, replacing an entry with the same key. -/
def insertSorted (k : String) (v : Setting) : List (String × Setting) → List (String × Setting)
  | [] => [(k, v)]
  | (k', v') :: rest =>
    if k == k' then (k, v) :: rest
    else if k < k' then (k, v) :: (k', v') :: rest
    else (k', v') :: insertSorted k v rest

mutual

/-- Merge `top` over `base`: tables are merged key by key (the merged table takes `top`'s
origin); anything else in `top` replaces what `base` has. -/
def Setting.merge : Setting → Setting → Setting
  | .table _ a, .table o b => .table o (mergeEntries a b)
  | _, top => top

/-- Merge the entries of `top` into `base`, key by key. -/
def mergeEntries (base : List (String × Setting)) :
    List (String × Setting) → List (String × Setting)
  | [] => base
  | (k, v) :: rest =>
    let merged := match base.lookup k with
      | some old => Setting.merge old v
      | none => v
    mergeEntries (insertSorted k merged base) rest

end

end JobQuery.Config
