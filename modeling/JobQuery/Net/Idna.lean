import JobQuery.Net.IdnaMapping
import JobQuery.Net.Punycode
import JobQuery.Unicode.Normalization
import JobQuery.Unicode.Bidi
import JobQuery.Unicode.Joining

/-!
# Domain names to ASCII

Internationalized domain names are turned into their ASCII form the way URL hosts need it
(nontransitional processing, hyphens anywhere, no length limits, joiner and bidirectional
checks on):

1. every code point is mapped by the IDNA table: valid and deviation code points are kept,
   mapped ones replaced, ignored ones dropped, and a disallowed one makes the name invalid;
2. the result must hold none of the ASCII characters a URL host may not hold (controls,
   space, DEL and `%#/:<>?@[\]^|`), and is put in normalization form C;
3. it is split into labels at dots; a label starting with `xn--` is decoded from punycode
   and must decode to a non-ASCII label in normalization form C made of valid or deviation
   code points;
4. every label must satisfy the validity rules: no mark first, a zero-width joiner only
   after a virama, a zero-width non-joiner only after a virama or between characters that
   join towards it; when any label holds a right-to-left character, every label must
   satisfy the bidirectional rules;
5. every label holding non-ASCII characters is written as `xn--` and its punycode; a label
   of more than 1000 code points is refused instead, as is punycode text of more than 2000
   characters in step 3.
-/

namespace JobQuery.Net

open Unicode

/-- The code points a code point maps to; `none` when it is disallowed. -/
def mapCode (n : Nat) : Option (List Nat) :=
  match idnaStatus n with
  | .valid | .deviation => some [n]
  | .mapped replacement => some replacement
  | .ignored => some []
  | .disallowed => none

/-- ASCII code points no URL host may hold. -/
def deniedInHost (n : Nat) : Bool :=
  n ≤ 0x20 || n == 0x7F || "%#/:<>?@[\\]^|".any (·.toNat == n)

/-- Whether a code point may stand in a decoded `xn--` label as it is. -/
def keptAsIs (n : Nat) : Bool :=
  match idnaStatus n with
  | .valid | .deviation => true
  | _ => false

/-- The zero-width non-joiner. -/
def zwnj : Char := Char.ofNat 0x200C

/-- The zero-width joiner. -/
def zwj : Char := Char.ofNat 0x200D

/-- Whether, skipping transparent characters, the first character of a list joins in one
of the given ways. -/
def joinsAfterTransparent (ok : JoiningType → Bool) : List Char → Bool
  | [] => false
  | c :: rest =>
    let t := joiningType c
    if t == .T then joinsAfterTransparent ok rest else ok t

/-- Whether every joiner of a label is allowed: each is preceded by a virama, or, for a
non-joiner, sits between a left- or dual-joining character and a right- or dual-joining
one (with transparent characters between). `before` is the part before the current
character, reversed. -/
def joinersAllowed : List Char → List Char → Bool
  | _, [] => true
  | before, c :: after =>
    let ok :=
      if c == zwnj || c == zwj then
        match before with
        | [] => false
        | b :: _ =>
          if combiningClass b.toNat == viramaClass then true
          else if c == zwj then false
          else
            joinsAfterTransparent (fun t => t == .L || t == .D) before &&
              joinsAfterTransparent (fun t => t == .R || t == .D) after
      else true
    ok && joinersAllowed (c :: before) after

/-- Whether a label satisfies the bidirectional rules: it starts with a left-to-right
character and holds only left-to-right, neutral and number classes, ending (marks aside)
in a left-to-right character or a European digit; or it starts with a right-to-left
character, holds no left-to-right one, ends (marks aside) in a right-to-left character or a
digit, and does not mix European and Arabic digits. -/
def bidiLabelOk (label : List Char) : Bool :=
  match label with
  | [] => true
  | first :: _ =>
    let classes := label.map bidiClass
    let last := (classes.reverse.dropWhile (· == .NSM)).head?
    match bidiClass first with
    | .L =>
      classes.all BidiClass.inLeftToRight && (last == some .L || last == some .EN)
    | .R | .AL =>
      classes.all BidiClass.inRightToLeft &&
        (last == some .R || last == some .AL || last == some .EN || last == some .AN) &&
        !(classes.contains .EN && classes.contains .AN)
    | _ => false

/-- Whether a label satisfies the rules every label must: no mark first, joiners allowed. -/
def labelOk (label : List Char) : Bool :=
  (match label with
    | c :: _ => !isMark c
    | [] => true) &&
  joinersAllowed [] label

/-- The most code points a label may have to be written in punycode. -/
def maxEncodedLabel : Nat := 1000

/-- The longest punycode text (after `xn--`) that is decoded. -/
def maxDecodedText : Nat := 2000

/-- A label as processing reads it: the characters checked, and the ASCII text written.
Punycode is bounded both ways: a longer label or text is refused rather than converted. -/
def readLabel (label : List Char) : Option (List Char × String) :=
  match label with
  | 'x' :: 'n' :: '-' :: '-' :: code =>
    if code.any (·.toNat ≥ 0x80) || code.length > maxDecodedText then none
    else
      match Punycode.decode code with
      | none => none
      | some decoded =>
        if decoded.all (·.toNat < 0x80) then none
        else if nfc decoded != decoded then none
        else if !decoded.all (keptAsIs ·.toNat) then none
        else some (decoded, String.ofList label)
  | _ =>
    if label.all (·.toNat < 0x80) then some (label, String.ofList label)
    else if label.length > maxEncodedLabel then none
    else some (label, "xn--" ++ Punycode.encode label)

/-- The ASCII form of a domain name, if it is a valid one. -/
def domainToAscii (name : String) : Option String := do
  let mapped ← name.toList.foldr (fun c acc => do
    let cs ← mapCode c.toNat
    let rest ← acc
    return cs ++ rest) (some [])
  if mapped.any deniedInHost then none
  let normal := nfc (mapped.map Char.ofNat)
  let labels ← (normal.splitOn '.').mapM readLabel
  let checked := labels.map Prod.fst
  if !checked.all labelOk then none
  if checked.any (·.any fun c => (bidiClass c).isRightToLeft) && !checked.all bidiLabelOk then none
  return ".".intercalate (labels.map Prod.snd)

end JobQuery.Net
