/-!
# Byte parsers with explained failures

Parsers over the bytes of a text, built from a few primitives and combinators, whose failures
say *where* the text stopped making sense and *what* was being read there.

A failure carries:

* the offset where the parser left the input: a failing parser does not give back what it
  consumed, except where a combinator says it does (`optional`, `alt`, `peek`, `tryMap`,
  `verify`, the repetitions);
* whether it is *committed*: an uncommitted failure lets an enclosing choice try its next
  alternative, a committed one (made so by `commit`) ends every choice around it;
* the contexts added while it travelled outwards, innermost first: labels (`invalid key`)
  and expectations (`expected newline`);
* a cause, when a value was read but refused (`value is out of range`).

Its message is the first label as `invalid <label>`, then the expectations on one line
(`expected `.`, `=``), then the cause, each on its own line.

Every repetition is bounded by the number of bytes left, and stops when an iteration reads
nothing, so every parser is total.
-/

namespace JobQuery.Text

/-- What a failure says about the reading it interrupted. -/
inductive Context where
  /-- What was being read: printed `invalid <what>`. -/
  | label (what : String)
  /-- Something that would have been accepted: printed in the `expected` list. -/
  | expected (what : String)
  deriving Repr, BEq, Inhabited

/-- A failed reading. -/
structure Failure where
  /-- Whether enclosing alternatives are skipped. -/
  committed : Bool := false
  /-- The byte offset where the input was left. -/
  offset : Nat
  /-- The contexts, innermost first. -/
  contexts : List Context := []
  /-- Why a value that was read was refused. -/
  cause : Option String := none
  deriving Repr, Inhabited

/-- The message of a failure: the first label, the expectations, the cause. -/
def Failure.message (f : Failure) : String :=
  let label := f.contexts.findSome? fun
    | .label l => some l
    | .expected _ => none
  let expected := f.contexts.filterMap fun
    | .expected e => some e
    | .label _ => none
  let parts := (label.map fun l => "invalid " ++ l).toList ++
    (if expected.isEmpty then [] else ["expected " ++ ", ".intercalate expected]) ++
    f.cause.toList
  "\n".intercalate parts

/-- A parser of part of a text's bytes: it reads from an offset and leaves an offset. -/
abbrev ByteParser := ReaderT ByteArray (StateT Nat (Except Failure))

namespace ByteParser

/-- The offset of the next byte. -/
def offset : ByteParser Nat := get

/-- The bytes not read yet. -/
def remaining : ByteParser Nat := do return (← read).size - (← get)

/-- Fail at the current offset, uncommitted. -/
def fail : ByteParser α := do throw { offset := ← get }

/-- Fail at the current offset, uncommitted, with a cause. -/
def failBecause (cause : String) : ByteParser α := do throw { offset := ← get, cause := some cause }

/-- The next byte, if any, without consuming it. -/
def peekByte : ByteParser (Option UInt8) := do return (← read)[← get]?

/-- The next `n` bytes (fewer at the end), without consuming them. -/
def peekBytes (n : Nat) : ByteParser (List UInt8) := do
  let i ← get
  return ((← read).extract i (i + n)).toList

/-- Any byte. -/
def anyByte : ByteParser UInt8 := do
  match ← peekByte with
  | some b => do modify (· + 1); return b
  | none => fail

/-- A byte satisfying a predicate; nothing is consumed on failure. -/
def byteIf (p : UInt8 → Bool) : ByteParser UInt8 := do
  match ← peekByte with
  | some b => if p b then do modify (· + 1); return b else fail
  | none => fail

/-- One given byte. -/
def byte (b : UInt8) : ByteParser UInt8 := byteIf (· == b)

/-- Exactly the given bytes; nothing is consumed on failure. -/
def literal (bs : List UInt8) : ByteParser Unit := do
  if (← peekBytes bs.length) == bs then modify (· + bs.length) else fail

/-- The end of the input. -/
def eof : ByteParser Unit := do
  if (← peekByte).isNone then pure () else fail

/-- The longest run of at most `most` bytes satisfying `p`, failing without consuming when
it is shorter than `least`. -/
def takeWhile (least most : Nat) (p : UInt8 → Bool) : ByteParser (List UInt8) := do
  let i ← get
  let src ← read
  let run := ((src.extract i src.size).toList.takeWhile p).take most
  if run.length < least then fail
  else do set (i + run.length); return run

/-- The bytes from an offset to the current one. -/
def sliceFrom (start : Nat) : ByteParser (List UInt8) := do
  return ((← read).extract start (← get)).toList

/-- The text of the bytes from an offset to the current one. -/
def textFrom (start : Nat) : ByteParser String := do
  return (String.fromUTF8? ((← read).extract start (← get))).getD ""

/-- Add a context to the failures of a parser. -/
def context (c : Context) (p : ByteParser α) : ByteParser α :=
  tryCatch p fun f => throw { f with contexts := f.contexts ++ [c] }

/-- Make the failures of a parser committed. -/
def commit (p : ByteParser α) : ByteParser α :=
  tryCatch p fun f => throw { f with committed := true }

/-- Run a parser without consuming input, on success or failure. -/
def peek (p : ByteParser α) : ByteParser α := do
  let start ← get
  let a ← tryCatch p fun f => throw { f with offset := start }
  set start
  return a

/-- A parser's result, or `none` (with nothing consumed) when it fails uncommitted. -/
def optional (p : ByteParser α) : ByteParser (Option α) := do
  let start ← get
  tryCatch (some <$> p) fun f => if f.committed then throw f else do set start; pure none

/-- The first alternative that succeeds, each tried from the same offset; when all fail
uncommitted, the failure of the last one. -/
def alt : List (ByteParser α) → ByteParser α
  | [] => fail
  | [p] => p
  | p :: ps => do
    let start ← get
    tryCatch p fun f => if f.committed then throw f else do set start; alt ps

/-- A parser whose result is checked; a refused result is an uncommitted failure at the
offset where the parser started, with the refusal as cause. -/
def tryMap (p : ByteParser α) (f : α → Except String β) : ByteParser β := do
  let start ← get
  let a ← p
  match f a with
  | .ok b => return b
  | .error cause => throw { offset := start, cause := some cause }

/-- A parser whose result must satisfy a predicate; a result that does not is an
uncommitted failure at the offset where the parser started. -/
def verify (p : ByteParser α) (ok : α → Bool) : ByteParser α := do
  let start ← get
  let a ← p
  if ok a then return a else throw { offset := start }

/-- Run a parser as many times as it succeeds (stopping at an uncommitted failure, where
the failed iteration's input is given back, or at an iteration that read nothing). -/
def many (p : ByteParser α) : ByteParser (List α) := do
  let rec go : Nat → List α → ByteParser (List α)
    | 0, acc => return acc.reverse
    | fuel + 1, acc => do
      let start ← get
      match ← optional p with
      | none => return acc.reverse
      | some a => if (← get) == start then return (a :: acc).reverse else go fuel (a :: acc)
  go ((← remaining) + 1) []

/-- Run a parser at least once, then as many times as it succeeds. -/
def many1 (p : ByteParser α) : ByteParser (List α) := do
  let a ← p
  return a :: (← many p)

/-- Further items, each after a separator, once `acc` (reversed) is read. After a
separator, an item that fails uncommitted gives back the separator and ends the list. -/
def sepRest (item : ByteParser α) (sep : ByteParser β) (acc : List α) : ByteParser (List α) := do
  let rec go : Nat → List α → ByteParser (List α)
    | 0, acc => return acc.reverse
    | fuel + 1, acc => do
      let start ← get
      match ← optional sep with
      | none => return acc.reverse
      | some _ =>
        match ← optional item with
        | none => do set start; return acc.reverse
        | some a => go fuel (a :: acc)
  go ((← remaining) + 1) acc

/-- One or more items with separators between them. -/
def sepBy1 (item : ByteParser α) (sep : ByteParser β) : ByteParser (List α) := do
  let first ← item
  sepRest item sep [first]

/-- Zero or more items with separators between them: no item when the first one fails
uncommitted. -/
def sepBy (item : ByteParser α) (sep : ByteParser β) : ByteParser (List α) := do
  match ← optional item with
  | none => return []
  | some first => sepRest item sep [first]

/-- Run a parser on a whole text: its result, or its failure. -/
def parseBytes (p : ByteParser α) (src : ByteArray) : Except Failure α :=
  match StateT.run (ReaderT.run p src) 0 with
  | .ok (a, _) => .ok a
  | .error f => .error f

end ByteParser

end JobQuery.Text
