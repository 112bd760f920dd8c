import JobQuery.Net.Host

/-!
# URLs

Absolute URLs as the WHATWG URL standard reads and writes them, for what a client of an
HTTP service needs: parse a base URL, add one path segment, add query pairs, and write the
result.

* Blanks and controls around the text are dropped; tabs and line breaks anywhere in it too.
* The scheme is a letter followed by letters, digits, `+`, `-` or `.`, then `:`; without one
  the text is relative, and there is no base to resolve it against.
* The *special* schemes (`http`, `https`, `ws`, `wss`, `ftp`, `file`) always have a host,
  skip any slashes after the colon, treat `\` like `/`, and drop their default port.
* Another scheme has an authority only after `//`; without one its path may be a single
  text that is not made of segments (`mailto:x`, or `urn:x://host/p`, whose scheme is
  `urn`). Such a URL cannot take path segments.
* Path segments `.` and `..` (also written with `%2e`) are resolved as they are read.
-/

namespace JobQuery.Net

/-- The path of a URL. -/
inductive UrlPath where
  /-- Segments, each percent-encoded; `[]` is no path at all, `[""]` is `/`. -/
  | segments (list : List String)
  /-- A path that is one text, not made of segments. -/
  | flat (text : String)
  deriving Repr, BEq, Inhabited

/-- A parsed absolute URL. -/
structure Url where
  scheme : String
  username : String := ""
  password : String := ""
  host : Option Host := none
  port : Option Nat := none
  path : UrlPath
  query : Option String := none
  fragment : Option String := none
  deriving Repr, BEq, Inhabited

/-- The default port of a special scheme, and whether the scheme is special at all. -/
def specialScheme (scheme : String) : Option (Option Nat) :=
  match scheme with
  | "http" => some (some 80)
  | "https" => some (some 443)
  | "ws" => some (some 80)
  | "wss" => some (some 443)
  | "ftp" => some (some 21)
  | "file" => some none
  | _ => none

/-- Whether a scheme is special. -/
def isSpecial (scheme : String) : Bool := (specialScheme scheme).isSome

-- ---------------------------------------------------------------------------
-- Pieces of the parser
-- ---------------------------------------------------------------------------

/-- The text with blanks and controls around it dropped, and tabs and line breaks removed. -/
def cleanInput (s : String) : List Char :=
  let edge := fun (c : Char) => c.toNat ≤ 0x20
  let cs := ((s.toList.dropWhile edge).reverse.dropWhile edge).reverse
  cs.filter fun c => c != '\t' && c != '\n' && c != '\r'

/-- The rest of a scheme after its first letter, up to the colon. -/
def schemeTail (acc : List Char) : List Char → Option (String × List Char)
  | [] => none
  | ':' :: rest => some (String.ofList acc.reverse, rest)
  | c :: rest =>
    if c.isAlphanum || c == '+' || c == '-' || c == '.' then schemeTail (c.toLower :: acc) rest
    else none

/-- The scheme (lower case) and what follows its colon. -/
def splitScheme : List Char → Option (String × List Char)
  | c :: rest => if c.isAlpha then schemeTail [c.toLower] rest else none
  | [] => none

/-- Whether `c` ends an authority. -/
def endsAuthority (special : Bool) (c : Char) : Bool :=
  c == '/' || c == '?' || c == '#' || (special && c == '\\')

/-- The text before the last `@` and the text after it, when there is an `@`. -/
def splitAtLast (cs : List Char) : Option (List Char × List Char) :=
  match cs.reverse.span (· != '@') with
  | (_, []) => none
  | (after, _ :: before) => some (before.reverse, after.reverse)

/-- The host text and, after the first colon outside brackets, the port text. -/
def splitHostPort (inBrackets : Bool) : List Char → List Char × Option (List Char)
  | [] => ([], none)
  | c :: rest =>
    if c == ':' && !inBrackets then ([], some rest)
    else
      let inside := if c == '[' then true else if c == ']' then false else inBrackets
      let (h, p) := splitHostPort inside rest
      (c :: h, p)

/-- A port: decimal digits up to 65535, none for an empty text or the default port. -/
def parsePort (defaultPort : Option Nat) (cs : List Char) : Except UrlError (Option Nat) := do
  let n ← cs.foldlM (fun n c =>
    if c.isDigit then
      let n := n * 10 + (c.toNat - 48)
      if n > 65535 then throw UrlError.invalidPort else pure n
    else throw UrlError.invalidPort) 0
  if cs.isEmpty || some n == defaultPort then return none
  return some n

/-- Whether a segment is `.`, also written `%2e`. -/
def isSingleDot (s : String) : Bool := s == "." || s.toLower == "%2e"

/-- Whether a segment is `..`, also written with `%2e`. -/
def isDoubleDot (s : String) : Bool :=
  let l := s.toLower
  l == ".." || l == ".%2e" || l == "%2e." || l == "%2e%2e"

/-- Add raw segments to a path, resolving dot segments: `..` removes the last segment, `.`
is dropped, and either one at the end leaves an empty last segment. -/
def addSegments (set : EncodeSet) : List String → List (List Char) → List String
  | acc, [] => acc
  | acc, [seg] =>
    let s := String.ofList seg
    if isDoubleDot s then acc.dropLast ++ [""]
    else if isSingleDot s then acc ++ [""]
    else acc ++ [encodeWith set seg]
  | acc, seg :: rest =>
    let s := String.ofList seg
    if isDoubleDot s then addSegments set acc.dropLast rest
    else if isSingleDot s then addSegments set acc rest
    else addSegments set (acc ++ [encodeWith set seg]) rest

/-- The parts of a text between separators: one more than there are separators. -/
def splitSegments (sep : Char → Bool) : List Char → List (List Char)
  | [] => [[]]
  | c :: rest =>
    let parts := splitSegments sep rest
    if sep c then [] :: parts
    else match parts with
      | p :: ps => (c :: p) :: ps
      | [] => [[c]]

/-- A path made of segments, from the text after the authority (which starts with a
separator or is empty). -/
def parseSegments (special : Bool) (cs : List Char) : List String :=
  let sep := fun (c : Char) => c == '/' || (special && c == '\\')
  let body := match cs with
    | c :: rest => if sep c then rest else cs
    | [] => []
  addSegments pathSet [] (splitSegments sep body)

/-- The query and fragment of the text after the path. -/
def parseTail (special : Bool) (cs : List Char) : Option String × Option String :=
  let (q, f) := cs.span (· != '#')
  let query := match q with
    | '?' :: rest => some (encodeWith (if special then specialQuerySet else querySet) rest)
    | _ => none
  let fragment := match f with
    | '#' :: rest => some (encodeWith fragmentSet rest)
    | _ => none
  (query, fragment)

/-- The user name and password of the text before an `@`: split at the first colon. -/
def parseUserinfo (cs : List Char) : String × String :=
  let (user, pass) := cs.span (· != ':')
  (encodeWith userinfoSet user, encodeWith userinfoSet (pass.drop 1))

-- ---------------------------------------------------------------------------
-- The parser
-- ---------------------------------------------------------------------------

/-- Whether a text is a drive letter: an ASCII letter, then `:` or `|`. -/
def isDriveLetter : List Char → Bool
  | [c, d] => c.isAlpha && c.toNat < 0x80 && (d == ':' || d == '|')
  | _ => false

/-- A path of a file URL: a drive letter first is written with a colon. -/
def fileSegments (cs : List Char) : List String :=
  match parseSegments true cs with
  | first :: rest =>
    if isDriveLetter first.toList then String.ofList (first.toList.take 1 ++ [':']) :: rest
    else first :: rest
  | [] => []

/-- Parse what follows the slashes of a file URL: the host is all of the text up to the
path (a file URL has no user, password or port, so `@` and `:` are characters of the host,
which no domain may hold), except that a drive letter there starts the path instead. -/
def parseFileAuthority (cs : List Char) : Except UrlError Url := do
  let (auth, rest) := cs.span fun c => !endsAuthority true c
  let (pathText, tail) := rest.span fun c => c != '?' && c != '#'
  let (query, fragment) := parseTail true tail
  if isDriveLetter auth then
    let (pathText, tail) := cs.span fun c => c != '?' && c != '#'
    let (query, fragment) := parseTail true tail
    return { scheme := "file", host := some (.domain ""), path := .segments (fileSegments pathText),
             query, fragment }
  let host ← if auth.isEmpty then pure (Host.domain "") else parseSpecialHost auth
  let host := if host == .domain "localhost" then .domain "" else host
  return { scheme := "file", host := some host, path := .segments (fileSegments pathText),
           query, fragment }

/-- Parse what follows `//` (or, for special schemes, the slashes after the colon): the
authority, then the path, query and fragment. -/
def parseAuthority (scheme : String) (cs : List Char) : Except UrlError Url := do
  let special := isSpecial scheme
  let (auth, rest) := cs.span fun c => !endsAuthority special c
  let (userinfo, hostPort) := match splitAtLast auth with
    | some (u, h) => (some u, h)
    | none => (none, auth)
  let (username, password) := (userinfo.map parseUserinfo).getD ("", "")
  if userinfo == some [] && hostPort.isEmpty && (special || !rest.isEmpty) then throw .emptyHost
  let (hostText, portText) := splitHostPort false hostPort
  let host ← if special then
      (if hostText.isEmpty then throw .emptyHost else parseSpecialHost hostText)
    else parseOtherHost hostText
  if host.isEmpty && (portText.isSome || username != "" || password != "") then throw .emptyHost
  -- a backslash ends the port even where it does not end the authority; it starts the path
  let (portText, afterPort) := match portText with
    | some p => let (digits, more) := p.span (· != '\\'); (some digits, more)
    | none => (none, [])
  let port ← match portText with
    | some p => parsePort ((specialScheme scheme).join) p
    | none => pure none
  let (pathText, tail) := (afterPort ++ rest).span fun c => c != '?' && c != '#'
  let path := if special then parseSegments true pathText
    else if pathText.isEmpty then [] else parseSegments false pathText
  let (query, fragment) := parseTail special tail
  return { scheme, username, password, host := some host, port, path := .segments path,
           query, fragment }

/-- Parse an absolute URL. -/
def Url.parse (input : String) : Except UrlError Url := do
  let some (scheme, rest) := splitScheme (cleanInput input) | throw .relativeWithoutBase
  let special := isSpecial scheme
  if special && scheme != "file" then
    parseAuthority scheme (rest.dropWhile fun c => c == '/' || c == '\\')
  else
    match rest with
    | '/' :: '/' :: more => if scheme == "file" then parseFileAuthority more else parseAuthority scheme more
    | _ =>
      if scheme == "file" then
        let more := rest.dropWhile fun c => c == '/' || c == '\\'
        if rest.length - more.length ≥ 2 then parseFileAuthority more
        else
          let (pathText, tail) := rest.span fun c => c != '?' && c != '#'
          let (query, fragment) := parseTail true tail
          return { scheme, host := some (.domain ""), path := .segments (fileSegments pathText),
                   query, fragment }
      else
        let (pathText, tail) := rest.span fun c => c != '?' && c != '#'
        let (query, fragment) := parseTail false tail
        let path := match pathText with
          | '/' :: _ => UrlPath.segments (parseSegments false pathText)
          | _ => UrlPath.flat (encodeWith controlSet pathText)
        return { scheme, path, query, fragment }

-- ---------------------------------------------------------------------------
-- Writing and editing
-- ---------------------------------------------------------------------------

/-- The path as a URL writes it. -/
def UrlPath.text : UrlPath → String
  | .segments [] => ""
  | .segments ss => String.join (ss.map ("/" ++ ·))
  | .flat t => t

/-- The whole URL as text. -/
def Url.text (u : Url) : String :=
  let userinfo :=
    if u.username.isEmpty && u.password.isEmpty then ""
    else u.username ++ (if u.password.isEmpty then "" else ":" ++ u.password) ++ "@"
  let authority := match u.host with
    | some h => "//" ++ userinfo ++ h.text ++ (match u.port with
        | some p => ":" ++ toString p
        | none => "")
    | none => match u.path with
      | .segments ("" :: _ :: _) => "/."
      | _ => ""
  u.scheme ++ ":" ++ authority ++ u.path.text ++
    (match u.query with | some q => "?" ++ q | none => "") ++
    (match u.fragment with | some f => "#" ++ f | none => "")

/-- Whether a percent-encoded text decodes to UTF-8. -/
def decodesToUtf8 (s : String) : Bool :=
  (String.fromUTF8? (ByteArray.mk (percentDecodeBytes s.toUTF8.toList).toArray)).isSome

/-- The URL as a client sends it once it has taken the user name and password out of it
(to send them as a header instead): they are taken out when the user name decodes to
UTF-8 and it is not empty or there is a password that decodes to UTF-8; otherwise the URL
is kept whole. -/
def Url.withoutCredentials (u : Url) : Url :=
  let hasPassword := !u.password.isEmpty && decodesToUtf8 u.password
  if u.host.isSome && decodesToUtf8 u.username && (!u.username.isEmpty || hasPassword) then
    { u with username := "", password := "" }
  else u

/-- Add one path segment, percent-encoded so that it stays one segment (`/`, `?`, `#` and
`%` in it are encoded); `.` and `..` add nothing. `none` for a URL whose path is not made
of segments. -/
def Url.pushSegment (u : Url) (segment : String) : Option Url :=
  match u.path with
  | .flat _ => none
  | .segments ss =>
    if segment == "." || segment == ".." then some u
    else
      let cs := segment.toList.filter fun c => c != '\t' && c != '\n' && c != '\r'
      let s := String.ofList cs
      let ss := if ss == [""] then [] else ss
      let ss := if s == ".." then ss.dropLast ++ [""]
        else if s == "." then ss ++ [""]
        else ss ++ [encodeWith (if isSpecial u.scheme then specialSegmentSet else segmentSet) cs]
      some { u with path := .segments (if ss.isEmpty then [""] else ss) }

/-- Add query pairs in form encoding, after the query there is, joined with `&`. -/
def Url.appendPairs (u : Url) (pairs : List (String × String)) : Url :=
  let added := String.intercalate "&" (pairs.map fun (k, v) => formEncode k ++ "=" ++ formEncode v)
  let query := match u.query with
    | none | some "" => added
    | some q => if pairs.isEmpty then q else q ++ "&" ++ added
  { u with query := some query }

end JobQuery.Net
