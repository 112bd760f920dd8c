/-!
# Double-precision binary floating point

The numbers of IEEE 754 binary64, the floats of configuration files, of environment values
and of JSON documents, with the arithmetic their readers do on them and the decimal texts
they are printed as.

A finite number is `±significand * 2^exponent` in the one form each number has: the
significand is below `2^53`, the exponent lies between `-1074` and `971`, and a significand
below `2^52` occurs only at the least exponent (the subnormal numbers, and the zeros).
Every operation is exact rational arithmetic followed by one rounding to the nearest number,
ties going to the even significand, which is the rounding of IEEE 754, so the results are
those of the hardware, bit for bit.

Printing goes through the *shortest* decimal of a number: the fewest significant digits that
read back as the same number, and of those the one nearest to it.
-/

namespace JobQuery

/-- A double-precision float. -/
inductive Binary64 where
  /-- `±significand * 2^exponent`, in canonical form. -/
  | finite (negative : Bool) (significand : Nat) (exponent : Int)
  /-- An infinity. -/
  | infinity (negative : Bool)
  /-- Not a number. -/
  | nan
  deriving Repr, BEq, DecidableEq, Inhabited

namespace Binary64

/-- The exponent of the subnormal numbers. -/
def leastExponent : Int := -1074

/-- The exponent of the largest finite numbers. -/
def greatestExponent : Int := 971

/-- A zero. -/
def zero (negative : Bool) : Binary64 := .finite negative 0 leastExponent

/-- `num / den` rounded to the nearest natural number, ties to the even one. -/
def roundQuotient (num den : Nat) : Nat :=
  let q := num / den
  let r := num % den
  if 2 * r > den then q + 1
  else if 2 * r == den then q + q % 2
  else q

/-- `2^k` for a natural exponent given as an integer. -/
def twoPow (k : Int) : Nat := Nat.pow 2 k.toNat

/-- `10^k` for a natural exponent given as an integer. -/
def tenPow (k : Int) : Nat := Nat.pow 10 k.toNat

/-- The number nearest to `num / den`, with a sign: the one rounding of every operation.
The exponent is the one that puts the significand in `[2^52, 2^53)`, or the least one;
a significand rounded up to `2^53` moves to the next exponent, and past the greatest
exponent the result is an infinity. -/
def ofRatio (negative : Bool) (num den : Nat) : Binary64 :=
  if num == 0 || den == 0 then zero negative
  else
    let t : Int := (Nat.log2 num : Int) - Nat.log2 den
    let atLeast := if 0 ≤ t then den * twoPow t ≤ num else den ≤ num * twoPow (-t)
    let floorLog := if atLeast then t else t - 1
    let e := max leastExponent (floorLog - 52)
    let m := if 0 ≤ e then roundQuotient num (den * twoPow e)
      else roundQuotient (num * twoPow (-e)) den
    let (m, e) := if m == Nat.pow 2 53 then (Nat.pow 2 52, e + 1) else (m, e)
    if e > greatestExponent then .infinity negative else .finite negative m e

/-- The number nearest to `±n * 2^twos * 10^tens`. -/
def ofScaled (negative : Bool) (n : Nat) (twos tens : Int) : Binary64 :=
  ofRatio negative (n * twoPow twos * tenPow tens) (twoPow (-twos) * tenPow (-tens))

/-- The number of decimal digits of a positive natural number. -/
def decimalWidth (n : Nat) : Nat := (Nat.toDigits 10 n).length

/-- The number nearest to the decimal `±digits * 10^exp10`. Decimals of more than 310
integer digits are past every finite number, and those below `10^-330` are nearer to zero
than to the least subnormal, so those two ends are settled without big powers. -/
def ofDecimal (negative : Bool) (digits : Nat) (exp10 : Int) : Binary64 :=
  if digits == 0 then zero negative
  else
    let magnitude : Int := (decimalWidth digits : Int) + exp10
    if magnitude > 310 then .infinity negative
    else if magnitude < -330 then zero negative
    else ofScaled negative digits 0 exp10

/-- The number nearest to a natural number. -/
def ofNat (n : Nat) : Binary64 := ofScaled false n 0 0

/-- The opposite number. -/
def neg : Binary64 → Binary64
  | .finite s m e => .finite (!s) m e
  | .infinity s => .infinity (!s)
  | .nan => .nan

/-- Whether the number is finite. -/
def isFinite : Binary64 → Bool
  | .finite .. => true
  | _ => false

/-- Whether the number is a zero. -/
def isZero : Binary64 → Bool
  | .finite _ 0 _ => true
  | _ => false

/-- The rounded product. -/
def mul : Binary64 → Binary64 → Binary64
  | .finite s m e, .finite t n f => ofScaled (s != t) (m * n) (e + f) 0
  | .nan, _ | _, .nan => .nan
  | .infinity s, .finite t n _ | .finite t n _, .infinity s =>
    if n == 0 then .nan else .infinity (s != t)
  | .infinity s, .infinity t => .infinity (s != t)

/-- The rounded quotient. -/
def div : Binary64 → Binary64 → Binary64
  | .finite s m e, .finite t n f =>
    if n == 0 then (if m == 0 then .nan else .infinity (s != t))
    else ofRatio (s != t) (m * twoPow (e - f)) (n * twoPow (f - e))
  | .nan, _ | _, .nan => .nan
  | .infinity _, .infinity _ => .nan
  | .infinity s, .finite t _ _ => .infinity (s != t)
  | .finite s _ _, .infinity t => zero (s != t)

/-- The rounded sum. An exact zero sum is positive unless both terms are negative. -/
def add : Binary64 → Binary64 → Binary64
  | .finite s m e, .finite t n f =>
    let low := min e f
    let a : Int := (m * twoPow (e - low) : Nat)
    let b : Int := (n * twoPow (f - low) : Nat)
    let total := (if s then -a else a) + (if t then -b else b)
    if total == 0 then zero (s && t) else ofScaled (total < 0) total.natAbs low 0
  | .nan, _ | _, .nan => .nan
  | .infinity s, .infinity t => if s == t then .infinity s else .nan
  | .infinity s, .finite .. | .finite .., .infinity s => .infinity s

instance : Add Binary64 := ⟨add⟩
instance : Mul Binary64 := ⟨mul⟩
instance : Div Binary64 := ⟨div⟩

/-- The order of finite numbers and infinities (`none` when a side is not a number).
The two zeros are equal. -/
def compare? : Binary64 → Binary64 → Option Ordering
  | .nan, _ | _, .nan => none
  | .infinity s, .infinity t => some (if s == t then .eq else if s then .lt else .gt)
  | .infinity s, .finite .. => some (if s then .lt else .gt)
  | .finite .., .infinity t => some (if t then .gt else .lt)
  | .finite s m e, .finite t n f =>
    let low := min e f
    let a : Int := (m * twoPow (e - low) : Nat)
    let b : Int := (n * twoPow (f - low) : Nat)
    some (Ord.compare (if s then -a else a) (if t then -b else b))

/-- Whether the first number is greater than the second. -/
def gt (a b : Binary64) : Bool := a.compare? b == some .gt

-- ---------------------------------------------------------------------------
-- Shortest decimals
-- ---------------------------------------------------------------------------

/-- Compare `c * 10^s` with `x * 2^t`. -/
def compareScaled (c : Nat) (s : Int) (x : Nat) (t : Int) : Ordering :=
  Ord.compare (c * tenPow s * twoPow (-t)) (x * twoPow t * tenPow (-s))

/-- The least `k` with `m * 2^e < 10^k`, for a positive `m`: found from an estimate by
the binary length, then corrected by exact comparisons. -/
def decimalMagnitude (m : Nat) (e : Int) : Int :=
  let bits : Int := (Nat.log2 m : Int) + e
  let guess := (bits * 30103) / 100000
  let rec up : Nat → Int → Int
    | 0, k => k
    | fuel + 1, k => if compareScaled 1 k m e == .gt then k else up fuel (k + 1)
  let rec down : Nat → Int → Int
    | 0, k => k
    | fuel + 1, k => if compareScaled 1 (k - 1) m e == .gt then down fuel (k - 1) else k
  down 4 (up 4 guess)

/-- Digits with their trailing zeros moved into the exponent. -/
def trimTrailingZeros : Nat → Nat → Int → Nat × Int
  | 0, d, s => (d, s)
  | fuel + 1, d, s => if d != 0 && d % 10 == 0 then trimTrailingZeros fuel (d / 10) (s + 1) else (d, s)

/-- The decimal candidates for the shortest digits of `v * 2^t` (the number, four times
its significand at two exponents below), between the midpoints `lowPoint * 2^t` and
`highPoint * 2^t`, which count as inside when `inclusive`. With `n` digits after the
magnitude `k`, the candidates are the number cut to `n` digits and the next decimal up;
the first `n` at which one of them lies inside wins, and when both do, the nearer one
(the upper one on a tie). -/
def shortestSearch (v lowPoint highPoint : Nat) (t k : Int) (inclusive : Bool) :
    Nat → Nat → Nat × Int
  | 0, n =>
    let s := k - n
    (v * twoPow t * tenPow (-s) / (tenPow s * twoPow (-t)), s)
  | fuel + 1, n =>
    let s := k - n
    let c := v * twoPow t * tenPow (-s) / (tenPow s * twoPow (-t))
    let cutInside : Bool := match compareScaled c s lowPoint t with
      | .gt => true
      | .eq => inclusive
      | .lt => false
    let nextInside : Bool := match compareScaled (c + 1) s highPoint t with
      | .lt => true
      | .eq => inclusive
      | .gt => false
    if cutInside && nextInside then
      if compareScaled (2 * c + 1) s (2 * v) t == .gt then (c, s) else (c + 1, s)
    else if cutInside == true then (c, s)
    else if nextInside == true then (c + 1, s)
    else shortestSearch v lowPoint highPoint t k inclusive fuel (n + 1)

/-- The shortest decimal `digits * 10^exp` of the positive number `m * 2^e`: the fewest
significant digits whose value lies strictly between the number and its neighbours'
midpoints (or on a midpoint, when the significand is even, since ties then read back as
this number), and of two such decimals the nearer one. The midpoint below a power of two
is a quarter step away, since the step halves there. -/
def shortest (m : Nat) (e : Int) : Nat × Int :=
  let v := 4 * m
  let lowPoint := v - (if m == Nat.pow 2 52 then 1 else 2)
  let (d, s) := shortestSearch v lowPoint (v + 2) (e - 2) (decimalMagnitude m e) (m % 2 == 0) 17 1
  trimTrailingZeros (decimalWidth d) d s

-- ---------------------------------------------------------------------------
-- Texts
-- ---------------------------------------------------------------------------

/-- A run of zero digits. -/
def zeroDigits (n : Nat) : String := String.ofList (List.replicate n '0')

/-- The sign of a number as printed: `-` for a negative one. -/
def signText (negative : Bool) : String := if negative then "-" else ""

/-- Plain decimal notation of the digits `ds` times `10^(point - ds.length)`: the point
falls before, inside or after the digits, with no exponent and no trailing `.0`. -/
def positional (ds : String) (point : Int) : String :=
  if point ≤ 0 then "0." ++ zeroDigits (-point).toNat ++ ds
  else if point < ds.length then
    String.ofList (ds.toList.take point.toNat) ++ "." ++ String.ofList (ds.toList.drop point.toNat)
  else ds ++ zeroDigits (point.toNat - ds.length)

/-- The text a number displays as: the shortest decimal in plain notation (`100000`,
`0.1`, `0.000001`), `inf`, `-inf`, `NaN`; zeros keep their sign (`-0`). -/
def display : Binary64 → String
  | .nan => "NaN"
  | .infinity s => signText s ++ "inf"
  | .finite s 0 _ => signText s ++ "0"
  | .finite s m e =>
    let (d, x) := shortest m e
    let ds := toString d
    signText s ++ positional ds (ds.length + x)

/-- The exponent of scientific notation, signed either way: `e+20`, `e-7`. -/
def exponentText (x : Int) : String :=
  if x < 0 then "e-" ++ toString x.natAbs else "e+" ++ toString x

/-- The text a JSON writer gives a finite number: the shortest decimal, in plain notation
with at least one fractional digit when the decimal point falls within the first sixteen
digits (`100.0`, `12.5`, `0.0012`), in scientific notation otherwise (`1e+20`, `1.5e-7`). -/
def jsonText : Binary64 → String
  | .nan => "NaN"
  | .infinity s => signText s ++ "inf"
  | .finite s 0 _ => signText s ++ "0.0"
  | .finite s m e =>
    let (d, x) := shortest m e
    let ds := toString d
    let len : Int := ds.length
    let point := len + x
    let body :=
      if 0 ≤ x && point ≤ 16 then ds ++ zeroDigits x.toNat ++ ".0"
      else if 0 < point && point ≤ 16 then positional ds point
      else if -5 < point && point ≤ 0 then positional ds point
      else if len == 1 then ds ++ exponentText (point - 1)
      else String.ofList (ds.toList.take 1) ++ "." ++ String.ofList (ds.toList.drop 1) ++
        exponentText (point - 1)
    signText s ++ body

end Binary64

end JobQuery
