/-!
# Punycode

The bootstring encoding of domain labels: a label's ASCII characters are written first
(followed by a hyphen when there are any), then the positions and values of the others, as
deltas in a variable-length base-36 notation whose digit thresholds adapt to the deltas
already written.

Decoding is strict, as domain processing needs it:

* the digits are `a`-`z` (0 to 25) and `0`-`9` (26 to 35), lower case only;
* the ASCII part is what precedes the last hyphen; a label whose only hyphen is its first
  character has no valid reading;
* the arithmetic is that of 32-bit numbers: a delta or a weight that would pass
  `2^32 - 1` makes the label invalid, as does a code point that is not a Unicode scalar
  value.
-/

namespace JobQuery.Net.Punycode

/-- The digit for `d < 36`: `a`-`z`, then `0`-`9`. -/
def digitChar (d : Nat) : Char :=
  if d < 26 then Char.ofNat (97 + d) else Char.ofNat (22 + d)

/-- The value of a digit. -/
def digitValue? (c : Char) : Option Nat :=
  if 'a' ≤ c && c ≤ 'z' then some (c.toNat - 97)
  else if '0' ≤ c && c ≤ '9' then some (c.toNat - 22)
  else none

/-- The digit threshold at position `k` under `bias`. -/
def threshold (k bias : Nat) : Nat :=
  if k ≤ bias then 1 else if k ≥ bias + 26 then 26 else k - bias

theorem one_le_threshold (k bias : Nat) : 1 ≤ threshold k bias := by
  unfold threshold
  split
  · exact Nat.le_refl 1
  · split <;> omega

/-- The variable-length digits of `q`, starting at position `k`. -/
def encodeDelta (q k bias : Nat) : List Char :=
  if q < threshold k bias then [digitChar q]
  else
    let t := threshold k bias
    digitChar (t + (q - t) % (36 - t)) :: encodeDelta ((q - t) / (36 - t)) (k + 36) bias
termination_by q
decreasing_by
  have h1 := one_le_threshold k bias
  have h2 := Nat.div_le_self (q - threshold k bias) (36 - threshold k bias)
  omega

/-- The scaling step of bias adaptation. -/
def adaptScale (delta k : Nat) : Nat :=
  if delta > 455 then adaptScale (delta / 35) (k + 36)
  else k + (36 * delta) / (delta + 38)
termination_by delta
decreasing_by omega

/-- The bias after a delta, `points` code points having been handled. -/
def adapt (delta points : Nat) (first : Bool) : Nat :=
  let delta := if first then delta / 700 else delta / 2
  adaptScale (delta + delta / points) 0

/-- Encode every occurrence of code point `n`, left to right: the state is the running
delta, the bias, the number of code points handled and the output. -/
def encodeRound (input : List Nat) (n basic : Nat) (st : Nat × Nat × Nat × List Char) :
    Nat × Nat × Nat × List Char :=
  input.foldl (fun (delta, bias, h, out) c =>
    if c < n then (delta + 1, bias, h, out)
    else if c == n then
      (0, adapt delta (h + 1) (h == basic), h + 1, out ++ encodeDelta delta 36 bias)
    else (delta, bias, h, out)) st

/-- Rounds of the encoder, one per code point value above the ones handled, smallest first. -/
def encodeLoop : (fuel : Nat) → (input : List Nat) → (n delta bias h basic : Nat) → List Char →
    List Char
  | 0, _, _, _, _, _, _, out => out
  | fuel + 1, input, n, delta, bias, h, basic, out =>
    match (input.filter (· ≥ n)).min? with
    | none => out
    | some m =>
      if h ≥ input.length then out
      else
        let (delta, bias, h, out) :=
          encodeRound input m basic (delta + (m - n) * (h + 1), bias, h, out)
        encodeLoop fuel input (m + 1) (delta + 1) bias h basic out

/-- The punycode form of a label: its ASCII characters, a hyphen when there were any, then
the encoded positions of the others. -/
def encode (label : List Char) : String :=
  let cps := label.map Char.toNat
  let basic := label.filter (·.toNat < 0x80)
  let out := basic ++ (if basic.isEmpty then [] else ['-'])
  String.ofList (encodeLoop cps.length cps 128 0 72 basic.length basic.length out)

/-- The largest 32-bit number. -/
def u32Max : Nat := Nat.pow 2 32 - 1

/-- Read one delta at the front of the digits, added to `i` with weight `w` from position
`k`: the new `i` and the digits left, or `none` for a bad digit, an early end or an
overflow. -/
def decodeDelta (bias : Nat) : List Char → (k w i : Nat) → Option (Nat × List Char)
  | [], _, _, _ => none
  | c :: rest, k, w, i => do
    let d ← digitValue? c
    if d * w > u32Max - i then none
    else
      let i := i + d * w
      let t := threshold k bias
      if d < t then some (i, rest)
      else if w * (36 - t) > u32Max then none
      else decodeDelta bias rest (k + 36) (w * (36 - t)) i

theorem decodeDelta_shorter (bias : Nat) : ∀ (l : List Char) (k w i : Nat) (r : Nat × List Char),
    decodeDelta bias l k w i = some r → r.2.length < l.length
  | [], _, _, _, _, h => by simp [decodeDelta] at h
  | c :: rest, k, w, i, r, h => by
    simp only [decodeDelta, Option.bind_eq_bind] at h
    cases hd : digitValue? c with
    | none => simp [hd] at h
    | some d =>
      simp only [hd, Option.bind_some] at h
      split at h
      · simp at h
      · split at h
        · simp only [Option.some.injEq] at h
          subst h
          simp
        · split at h
          · simp at h
          · have := decodeDelta_shorter bias rest _ _ _ r h
            simp only [List.length_cons]
            omega

/-- Insert the decoded code points: `out` is the label so far, `n` the last code point, `i`
the insertion position. -/
def decodeLoop (bias n i : Nat) (out : List Char) : List Char → Option (List Char)
  | [] => some out
  | c :: rest =>
    match h : decodeDelta bias (c :: rest) 36 1 i with
    | none => none
    | some (j, left) =>
      let points := out.length + 1
      let n := n + j / points
      let pos := j % points
      if n < 0xD800 || (0xDFFF < n && n < 0x110000) then
        decodeLoop (adapt (j - i) points (i == 0)) n (pos + 1) (out.insertIdx pos (Char.ofNat n))
          left
      else none
termination_by l => l.length
decreasing_by
  have := decodeDelta_shorter bias (c :: rest) 36 1 i (j, left) h
  simpa using this

/-- The label a punycode text (without its `xn--`) stands for, if it is valid. -/
def decode (text : List Char) : Option (List Char) :=
  match text.reverse.span (· != '-') with
  | (revDigits, []) => decodeLoop 72 128 0 [] revDigits.reverse
  | (revDigits, _ :: revBasic) =>
    if revBasic.isEmpty then none
    else if revBasic.any (·.toNat ≥ 0x80) then none
    else decodeLoop 72 128 0 revBasic.reverse revDigits.reverse

end JobQuery.Net.Punycode
