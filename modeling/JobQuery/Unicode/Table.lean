/-!
# Code point tables

Unicode properties are given as tables over code points, written as compact text and read
once into sorted arrays that are searched by bisection.

* A *range table* gives a value to every code point: its entries are sorted starts, each
  with the value that holds from that start up to the next one. Its text is a list of
  `start:value` tokens (both in hex) separated by blanks, the first start being `0`.
* A *keyed table* gives values to some code points (or pairs of them, folded into one key):
  its entries are sorted keys with their values, and a key not in it has no value. Its text
  is a list of `key:value` tokens, the key a list of hex numbers separated by commas.

Bisection is bounded by the table's size, so lookups are total; on a table whose starts or
keys are not sorted a lookup still answers, but not necessarily with the entry wanted.
-/

namespace JobQuery.Unicode

/-- The value of a hex digit. -/
def hexDigit? (c : Char) : Option Nat :=
  if '0' ≤ c && c ≤ '9' then some (c.toNat - 48)
  else if 'A' ≤ c && c ≤ 'F' then some (c.toNat - 55)
  else if 'a' ≤ c && c ≤ 'f' then some (c.toNat - 87)
  else none

/-- The value of hex digits (a character that is not one counts as zero). -/
def readHex (s : String) : Nat :=
  s.foldl (fun n c => n * 16 + (hexDigit? c).getD 0) 0

/-- The hex numbers of a comma-separated list. -/
def readHexList (s : String) : List Nat :=
  (s.splitOn ",").map readHex

/-- The tokens of a table's text: its blank-separated words, each split at its colons. -/
def tokens (text : String) : List (List String) :=
  ((text.splitOn " ").filter (!·.isEmpty)).map (·.splitOn ":")

/-- The number of keys `≤ n` in a sorted array, found by bisection of `[lo, hi)` once the
keys before `lo` are known to be `≤ n` and those from `hi` on to be `> n`. -/
def countAtMost (keys : Array Nat) (n : Nat) : (fuel lo hi : Nat) → Nat
  | 0, lo, _ => lo
  | fuel + 1, lo, hi =>
    if lo < hi then
      let mid := (lo + hi) / 2
      if keys.getD mid 0 ≤ n then countAtMost keys n fuel (mid + 1) hi
      else countAtMost keys n fuel lo mid
    else lo

/-- A property that gives every code point a value. -/
structure RangeTable where
  /-- The starts of the ranges, increasing. -/
  starts : Array Nat
  /-- The value of each range. -/
  values : Array Nat
  deriving Inhabited

namespace RangeTable

/-- A range table from its text. -/
def ofText (text : String) : RangeTable :=
  let entries := (tokens text).filterMap fun
    | [s, v] => some (readHex s, readHex v)
    | _ => none
  { starts := (entries.map Prod.fst).toArray, values := (entries.map Prod.snd).toArray }

/-- The value at a code point: that of the last range starting at or before it. -/
def get (t : RangeTable) (n : Nat) : Nat :=
  let k := countAtMost t.starts n (t.starts.size + 1) 0 t.starts.size
  if k == 0 then 0 else t.values.getD (k - 1) 0

end RangeTable

/-- A property that gives some keys a value. -/
structure KeyedTable (α : Type) where
  /-- The keys, increasing. -/
  keys : Array Nat
  /-- The value of each key. -/
  values : Array α
  deriving Inhabited

namespace KeyedTable

/-- A keyed table from its entries, sorted by key. -/
def ofEntries (entries : List (Nat × α)) : KeyedTable α :=
  let sorted := entries.mergeSort fun a b => a.1 ≤ b.1
  { keys := (sorted.map Prod.fst).toArray, values := (sorted.map Prod.snd).toArray }

/-- The value of a key, if it has one. -/
def get? (t : KeyedTable α) (n : Nat) : Option α :=
  let k := countAtMost t.keys n (t.keys.size + 1) 0 t.keys.size
  if k != 0 && t.keys.getD (k - 1) 0 == n then t.values[k - 1]? else none

end KeyedTable

end JobQuery.Unicode
