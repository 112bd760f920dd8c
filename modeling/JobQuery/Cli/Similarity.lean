import JobQuery.Number.Binary64

/-!
# Similar words

When a command line holds a word that names nothing, the program points at the names it
might have meant. Two words are compared by their Jaro similarity, a number between 0 and 1:

* `m` characters match when they are equal and no further apart than half the longer word's
  length, less one; each character matches at most once, the first free partner wins;
* `t` is half the number of matched pairs that appear in a different order;
* the similarity is `(m / |a| + m / |b| + (m - t) / m) / 3`, or 0 when nothing matches (1 for
  two empty words).

A name is suggested when its similarity is above `0.7`. Similarities are computed in
binary64 floating point, each operation rounded, in the order of the formula; this decides
the borderline cases: `crnng` and `config` are `(0.6 + 0.5 + 1) / 3`, which is `0.7` exactly
but `0.7000000000000001` once rounded, so `config` is suggested.
-/

namespace JobQuery.Cli

/-- A similarity, a binary64 number between 0 and 1. -/
abbrev Similarity := Binary64

namespace Similarity

/-- Whether one similarity is at most another. -/
def le (x y : Similarity) : Bool := x.compare? y != some .gt

/-- The threshold of suggestion, `0.7`. -/
def threshold : Similarity := Binary64.ofDecimal false 7 (-1)

/-- Whether a similarity is high enough to suggest a name: above `0.7`. -/
def suggestive (x : Similarity) : Bool := x.gt threshold

end Similarity

/-- Mark the first free position of `flags` in `[lo, hi)` whose character in `b` is `c`;
`none` when there is none. -/
def claimMatch (b : List Char) (flags : List Bool) (c : Char) (lo hi : Nat) : Option (List Bool) :=
  let pick := ((List.range hi).filter fun j => lo ≤ j).find? fun j =>
    b[j]? == some c && flags[j]? == some false
  pick.map fun j => flags.set j true

/-- The flags of the characters of `a` that found a partner in `b`, and the flags of `b`. -/
def matchFlags (a b : List Char) (window : Nat) : List Bool × List Bool :=
  let step := fun (acc : List Bool × List Bool) (ic : Nat × Char) =>
    let (i, c) := ic
    let lo := i - window
    let hi := min b.length (i + window + 1)
    match claimMatch b acc.2 c lo hi with
    | some flags => (acc.1 ++ [true], flags)
    | none => (acc.1 ++ [false], acc.2)
  (a.zipIdx.map fun (c, i) => (i, c)).foldl step ([], List.replicate b.length false)

/-- The characters whose flag is set, in order. -/
def flagged (cs : List Char) (flags : List Bool) : List Char :=
  (cs.zip flags).filterMap fun (c, f) => if f then some c else none

/-- The Jaro similarity of two words. -/
def jaro (a b : String) : Similarity :=
  let as := a.toList
  let bs := b.toList
  if as.isEmpty && bs.isEmpty then Binary64.ofNat 1
  else if as.isEmpty || bs.isEmpty then Binary64.ofNat 0
  else
    let window := max as.length bs.length / 2 - 1
    let (fa, fb) := matchFlags as bs window
    let ma := flagged as fa
    let mb := flagged bs fb
    let m := ma.length
    if m = 0 then Binary64.ofNat 0
    else
      let t := ((ma.zip mb).filter fun (x, y) => x != y).length / 2
      let f := Binary64.ofNat
      (f m / f as.length + f m / f bs.length + f (m - t) / f m) / f 3

/-- The names similar enough to `word`, least similar first (names equally similar keep
their order). -/
def similarNames (word : String) (names : List String) : List String :=
  let scored := (names.map fun n => (jaro word n, n)).filter fun (s, _) => s.suggestive
  (scored.mergeSort fun x y => x.1.le y.1).map Prod.snd

/-- The name most similar to `word`, if any is similar enough (of equally similar names,
the last). -/
def closestName (word : String) (names : List String) : Option String :=
  (similarNames word names).getLast?

end JobQuery.Cli
