import JobQuery.Number.Binary64

/-!
# JSON values

The data model every message of the query service is written in: requests, responses,
rows, error bodies and the reports this library prints.

Numbers keep the three shapes a JSON reader tells apart: a non-negative or negative
integer, and a floating-point number, kept as the double it denotes.

Objects are association lists. `Value.object` builds the canonical form, with keys in
increasing byte order and no key twice (a later binding wins), which is the form every
object read or built by this library is in.
-/

namespace JobQuery.Json

/-- A JSON number: an integer, or a float. -/
inductive Number where
  /-- An integer, negative or not. -/
  | int (value : Int)
  /-- A double. -/
  | float (value : Binary64)
  deriving Repr, BEq, DecidableEq, Inhabited

/-- A JSON value. -/
inductive Value where
  | null
  | bool (b : Bool)
  | num (n : Number)
  | str (s : String)
  | arr (items : List Value)
  | obj (fields : List (String × Value))
  deriving Repr, Inhabited

namespace Value

/-- The integer value `n`. -/
def nat (n : Nat) : Value := .num (.int n)

/-- The integer value `i`. -/
def int (i : Int) : Value := .num (.int i)

/-- Insert a binding into a key-sorted association list, replacing an equal key. -/
def insertField (k : String) (v : Value) : List (String × Value) → List (String × Value)
  | [] => [(k, v)]
  | (k2, v2) :: rest =>
    if k < k2 then (k, v) :: (k2, v2) :: rest
    else if k == k2 then (k, v) :: rest
    else (k2, v2) :: insertField k v rest

/-- The canonical object of a list of bindings: sorted keys, the last binding of a key wins. -/
def object (fields : List (String × Value)) : Value :=
  .obj (fields.foldl (fun acc kv => insertField kv.1 kv.2 acc) [])

/-- The value bound to `key` in an object, if any. -/
def get? (v : Value) (key : String) : Option Value :=
  match v with
  | .obj fields => (fields.find? (fun kv => kv.1 == key)).map Prod.snd
  | _ => none

/-- The string inside a string value. -/
def asString? : Value → Option String
  | .str s => some s
  | _ => none

/-- The boolean inside a boolean value. -/
def asBool? : Value → Option Bool
  | .bool b => some b
  | _ => none

/-- The elements of an array value. -/
def asArray? : Value → Option (List Value)
  | .arr items => some items
  | _ => none

/-- A non-negative integer, as a natural number. -/
def asNat? : Value → Option Nat
  | .num (.int i) => if 0 ≤ i then some i.toNat else none
  | _ => none

/-- Whether the value is `null`. -/
def isNull : Value → Bool
  | .null => true
  | _ => false

end Value

/-! ## Structural equality -/

mutual

/-- Structural equality of values (field order included). -/
def Value.beq : Value → Value → Bool
  | .null, .null => true
  | .bool a, .bool b => a == b
  | .num a, .num b => a == b
  | .str a, .str b => a == b
  | .arr as, .arr bs => Value.beqList as bs
  | .obj as, .obj bs => Value.beqFields as bs
  | _, _ => false

/-- Element-wise equality of two lists of values. -/
def Value.beqList : List Value → List Value → Bool
  | [], [] => true
  | a :: as, b :: bs => Value.beq a b && Value.beqList as bs
  | _, _ => false

/-- Binding-wise equality of two field lists. -/
def Value.beqFields : List (String × Value) → List (String × Value) → Bool
  | [], [] => true
  | (k, a) :: as, (l, b) :: bs => k == l && Value.beq a b && Value.beqFields as bs
  | _, _ => false

end

instance : BEq Value := ⟨Value.beq⟩

end JobQuery.Json
