/-!
# File paths

Paths as lists of components: `/` for the root, then the names between slashes (empty names
and `.` are dropped). A path is shown relative to the working directory when that is
shorter, counted in components, than the path itself.
-/

namespace JobQuery.Text

/-- The components of a path. -/
def pathComponents (p : String) : List String :=
  let names := (p.splitOn "/").filter fun s => !s.isEmpty && s != "."
  if p.startsWith "/" then "/" :: names else names

/-- Walk two component lists together, building the path from the second to the first;
`none` when the base climbs with `..`. -/
def relativeParts : List String → List String → List String → Option (List String)
  | [], [], acc => some acc.reverse
  | a :: rest, [], acc => some (acc.reverse ++ a :: rest)
  | [], _ :: bs, acc => relativeParts [] bs (".." :: acc)
  | a :: rest, b :: bs, acc =>
    if acc.isEmpty && a == b then relativeParts rest bs acc
    else if b == ".." then none
    else some (acc.reverse ++ List.replicate (bs.length + 1) ".." ++ a :: rest)

/-- A path relative to a base directory, when one can be formed. -/
def relativePath (path base : String) : Option (List String) :=
  let a := pathComponents path
  let b := pathComponents base
  if path.startsWith "/" != base.startsWith "/" then
    if path.startsWith "/" then some a else none
  else relativeParts a b []

/-- Join components into a path. -/
def joinComponents : List String → String
  | "/" :: rest => "/" ++ String.intercalate "/" rest
  | cs => String.intercalate "/" cs

/-- How a file is named to a user working in `cwd`: relative when that has fewer
components. -/
def displayPath (cwd path : String) : String :=
  match relativePath path cwd with
  | some rel => if rel.length < (pathComponents path).length then joinComponents rel else path
  | none => path

/-- The parent directories of a directory, nearest first, ending with the root. -/
def ancestors (dir : String) : List String :=
  let cs := pathComponents dir
  (List.range cs.length).reverse.map fun n => joinComponents (cs.take (n + 1))

end JobQuery.Text
