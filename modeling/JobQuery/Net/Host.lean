import JobQuery.Net.Percent
import JobQuery.Net.Idna

/-!
# Hosts

The host of a URL, read the way URL parsers of the WHATWG standard read it:

* `[...]` is an IPv6 address: up to eight 16-bit hex pieces separated by colons, at most one
  `::` standing for a run of zero pieces, and optionally a dotted IPv4 address as the last
  two pieces;
* otherwise, for the special schemes (`http`, `https`, ...), the text is percent-decoded and
  turned into an ASCII domain by IDNA processing (`domainToAscii`). A domain whose last
  label is a number is an IPv4 address: one to four parts, each decimal, octal (leading `0`)
  or hex (`0x`), the last part filling the remaining bytes;
* for other schemes the text is kept, control characters percent-encoded.
-/

namespace JobQuery.Net

/-- Why a text is not a URL. -/
inductive UrlError where
  | relativeWithoutBase
  | emptyHost
  | badDomain
  | invalidPort
  | invalidIpv4
  | invalidIpv6
  | invalidDomainCharacter
  deriving Repr, BEq, Inhabited

/-- The message of a URL error. -/
def UrlError.message : UrlError → String
  | .relativeWithoutBase => "relative URL without a base"
  | .emptyHost => "empty host"
  | .badDomain => "invalid international domain name"
  | .invalidPort => "invalid port number"
  | .invalidIpv4 => "invalid IPv4 address"
  | .invalidIpv6 => "invalid IPv6 address"
  | .invalidDomainCharacter => "invalid domain character"

/-- The host of a URL. -/
inductive Host where
  /-- A domain name, or the kept text of a host of a non-special scheme. -/
  | domain (name : String)
  /-- An IPv4 address as one 32-bit number. -/
  | ipv4 (address : Nat)
  /-- An IPv6 address as its eight 16-bit pieces. -/
  | ipv6 (pieces : List Nat)
  deriving Repr, BEq, Inhabited

-- ---------------------------------------------------------------------------
-- IPv4
-- ---------------------------------------------------------------------------

/-- Whether `c` is a digit in `radix` (8, 10 or 16). -/
def digitIn (radix : Nat) (c : Char) : Bool :=
  match hexValue c with
  | some d => d < radix
  | none => false

/-- One part of an IPv4 address: `none` when it is not a number, `some none` when it does not
fit 32 bits. Hex after `0x` or `0X`, octal after a leading `0`, decimal otherwise; a bare
prefix is zero. -/
def ipv4Number (s : List Char) : Option (Option Nat) :=
  if s.isEmpty then none
  else
    let (radix, digits) := match s with
      | '0' :: 'x' :: rest => (16, rest)
      | '0' :: 'X' :: rest => (16, rest)
      | '0' :: rest => if rest.isEmpty then (10, s) else (8, rest)
      | _ => (10, s)
    if digits.isEmpty then some (some 0)
    else if digits.all (digitIn radix) then
      let n := digits.foldl (fun n c => n * radix + (hexValue c).getD 0) 0
      some (if n < Nat.pow 2 32 then some n else none)
    else none

/-- Whether a domain's last label (a final empty label aside) is a number, which makes the
domain an IPv4 address. -/
def endsInNumber (s : String) : Bool :=
  let last := match (s.splitOn ".").reverse with
    | "" :: prev :: _ => some prev
    | [""] => none
    | l :: _ => some l
    | [] => none
  match last with
  | none => false
  | some l => (!l.isEmpty && l.all Char.isDigit) || (ipv4Number l.toList).isSome

/-- The IPv4 address a domain that ends in a number spells. -/
def parseIpv4 (s : String) : Except UrlError Nat := do
  let parts := s.splitOn "."
  let parts := if parts.getLast? == some "" then parts.dropLast else parts
  if parts.length > 4 then throw .invalidIpv4
  let numbers ← parts.mapM fun p => match ipv4Number p.toList with
    | some (some n) => pure n
    | _ => throw UrlError.invalidIpv4
  match numbers.reverse with
  | [] => throw .invalidIpv4
  | last :: revInit =>
    let init := revInit.reverse
    if last ≥ Nat.pow 256 (4 - init.length) then throw .invalidIpv4
    if init.any (· > 255) then throw .invalidIpv4
    return init.zipIdx.foldl (fun acc (n, i) => acc + n * Nat.pow 256 (3 - i)) last

/-- An IPv4 address in dotted decimal. -/
def ipv4Text (a : Nat) : String :=
  String.intercalate "." ([3, 2, 1, 0].map fun i => toString ((a / Nat.pow 256 i) % 256))

-- ---------------------------------------------------------------------------
-- IPv6
-- ---------------------------------------------------------------------------

/-- Up to four hex digits at the front: their value, how many there were, and the rest. -/
def hexPiece (value length : Nat) : List Char → Nat × Nat × List Char
  | [] => (value, length, [])
  | c :: rest =>
    if length < 4 then
      match hexValue c with
      | some d => hexPiece (value * 16 + d) (length + 1) rest
      | none => (value, length, c :: rest)
    else (value, length, c :: rest)

/-- One decimal part of an IPv4 address inside an IPv6 address: at most 255, no leading
zero, at least one digit. -/
def embeddedPart (acc : Option Nat) : List Char → Option (Nat × List Char)
  | [] => acc.map (·, [])
  | c :: rest =>
    if c.isDigit then
      let d := c.toNat - 48
      match acc with
      | some 0 => none
      | _ =>
        let v := (acc.getD 0) * 10 + d
        if v > 255 then none else embeddedPart (some v) rest
    else acc.map (·, c :: rest)

/-- The last two pieces of an IPv6 address written as a dotted IPv4 address. -/
def embeddedIpv4 (cs : List Char) : Option (Nat × Nat) := do
  let (a, r) ← embeddedPart none cs
  let r ← match r with | '.' :: r => some r | _ => none
  let (b, r) ← embeddedPart none r
  let r ← match r with | '.' :: r => some r | _ => none
  let (c, r) ← embeddedPart none r
  let r ← match r with | '.' :: r => some r | _ => none
  let (d, r) ← embeddedPart none r
  if r.isEmpty then some (a * 256 + b, c * 256 + d) else none

/-- The pieces of an IPv6 address read so far, and where a `::` stood. A `::` takes the place
of one zero piece; the others are inserted at the end. -/
def ipv6Pieces : (fuel : Nat) → List Char → List Nat → Option Nat → Option (List Nat × Option Nat)
  | _, [], ps, comp => some (ps, comp)
  | 0, _, _, _ => none
  | fuel + 1, cs, ps, comp =>
    if ps.length == 8 then none
    else match cs with
      | ':' :: rest =>
        if comp.isSome then none else ipv6Pieces fuel rest (ps ++ [0]) (some (ps.length + 1))
      | _ =>
        let (v, len, rest) := hexPiece 0 0 cs
        match rest with
        | '.' :: _ =>
          if len == 0 || ps.length > 6 then none
          else (embeddedIpv4 cs).map fun (hi, lo) => (ps ++ [hi, lo], comp)
        | [':'] => none
        | ':' :: more => ipv6Pieces fuel more (ps ++ [v]) comp
        | [] => some (ps ++ [v], comp)
        | _ => none

/-- The eight pieces of an IPv6 address (the text between the brackets). -/
def parseIpv6 (cs : List Char) : Option (List Nat) := do
  let (start, ps, comp) ← match cs with
    | ':' :: ':' :: rest => some (rest, [0], some 1)
    | ':' :: _ => none
    | _ => some (cs, [], none)
  let (ps, comp) ← ipv6Pieces (start.length + 1) start ps comp
  match comp with
  | some c => some (ps.take c ++ List.replicate (8 - ps.length) 0 ++ ps.drop c)
  | none => if ps.length == 8 then some ps else none

/-- The first longest run of at least two zero pieces, as start and end positions. -/
def longestZeros (ps : List Nat) : Option (Nat × Nat) :=
  let step := fun (acc : Option (Nat × Nat) × Option Nat) (p : Nat × Nat) =>
    let (best, cur) := acc
    let (v, i) := p
    if v == 0 then
      let start := cur.getD i
      let best := match best with
        | some (s, e) => if i + 1 - start > e - s then some (start, i + 1) else best
        | none => some (start, i + 1)
      (best, some start)
    else (best, none)
  (ps.zipIdx.foldl step (none, none)).1.filter fun (s, e) => e - s ≥ 2

/-- A 16-bit piece in lower-case hex without leading zeros. -/
def pieceText (n : Nat) : String := String.ofList (Nat.toDigits 16 n)

/-- An IPv6 address in its shortest form, without brackets. -/
def ipv6Text (ps : List Nat) : String :=
  match longestZeros ps with
  | none => String.intercalate ":" (ps.map pieceText)
  | some (s, e) =>
    String.intercalate ":" ((ps.take s).map pieceText) ++ "::" ++
      String.intercalate ":" ((ps.drop e).map pieceText)

-- ---------------------------------------------------------------------------
-- Domains
-- ---------------------------------------------------------------------------

/-- Characters no host of a non-special scheme may hold. -/
def forbiddenHostChar (c : Char) : Bool :=
  c.toNat == 0 || "\t\n\r #/:<>?@[\\]^|".contains c

-- ---------------------------------------------------------------------------
-- Hosts
-- ---------------------------------------------------------------------------

/-- The host between brackets. -/
def bracketedHost (inner : List Char) : Except UrlError Host :=
  if inner.getLast? != some ']' then .error .invalidIpv6
  else match parseIpv6 inner.dropLast with
    | some ps => .ok (.ipv6 ps)
    | none => .error .invalidIpv6

/-- The host of a URL with a special scheme. -/
def parseSpecialHost (text : List Char) : Except UrlError Host :=
  match text with
  | '[' :: inner => bracketedHost inner
  | _ => do
    let bytes := percentDecodeBytes (String.ofList text).toUTF8.toList
    let some decoded := String.fromUTF8? (ByteArray.mk bytes.toArray) | throw .badDomain
    let some ascii := domainToAscii decoded | throw .badDomain
    if ascii.isEmpty then throw .emptyHost
    if endsInNumber ascii then return .ipv4 (← parseIpv4 ascii)
    return .domain ascii

/-- The host of a URL with another scheme. -/
def parseOtherHost (text : List Char) : Except UrlError Host :=
  match text with
  | '[' :: inner => bracketedHost inner
  | _ =>
    if text.any forbiddenHostChar then .error .invalidDomainCharacter
    else .ok (.domain (encodeWith controlSet text))

/-- A host as a URL writes it. -/
def Host.text : Host → String
  | .domain name => name
  | .ipv4 a => ipv4Text a
  | .ipv6 ps => "[" ++ ipv6Text ps ++ "]"

/-- Whether the host is the empty domain. -/
def Host.isEmpty : Host → Bool
  | .domain "" => true
  | _ => false

end JobQuery.Net
