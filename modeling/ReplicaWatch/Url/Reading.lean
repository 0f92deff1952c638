import ReplicaWatch.Url

/-! # Reading URLs

URLs are read by the rules of the web: control characters and spaces at the ends, tabs
and line breaks are dropped, a backslash is a slash where the scheme is one of the web's,
the segments `.` and `..` are resolved, and what a part cannot hold is percent-encoded.
`Url.read` reads an absolute URL, and `Url.join` reads a reference that may be relative to
another URL. Both are given the reader of domain names.
-/

namespace ReplicaWatch.Url

open Text

/-! ## The characters that each part encodes -/

/-- What a fragment encodes. -/
def encodedInFragment (c : Char) : Bool :=
  isControl c || [' ', '"', '<', '>', '\x60'].contains c

/-- What a query encodes. -/
def encodedInQuery (special : Bool) (c : Char) : Bool :=
  isControl c || [' ', '"', '#', '<', '>'].contains c || (special && c == '\'')

/-- What a path encodes. -/
def encodedInPath (c : Char) : Bool :=
  encodedInFragment c || ['#', '?', '^', '\x7b', '\x7d'].contains c

/-- What a name or a password encodes. -/
def encodedInUserinfo (c : Char) : Bool :=
  encodedInPath c || ['/', ':', ';', '=', '@', '[', '\\', ']', '|'].contains c

/-! ## Paths -/

/-- Whether a segment stands for the level it is on. -/
def isSingleDot (segment : List Char) : Bool :=
  [".", "%2e"].contains (String.ofList (segment.map Char.toLower))

/-- Whether a segment stands for the level above. -/
def isDoubleDot (segment : List Char) : Bool :=
  ["..", "%2e.", ".%2e", "%2e%2e"].contains (String.ofList (segment.map Char.toLower))

/-- Whether a character ends a segment. -/
def isSlash (special : Bool) (c : Char) : Bool := c == '/' || (special && c == '\\')

/-- The parts of a text between slashes. -/
def splitSlashes (special : Bool) (cs : List Char) : List (List Char) := cs.splitOnP (isSlash special)

/-- A segment as a path holds it. -/
def segmentText (segment : List Char) : String := String.ofList (percentEncode encodedInPath segment)

/-- Adds segments to a path. A final `.` or `..` leaves an empty segment behind. -/
def addSegments (path : List String) : List (List Char) → List String
  | [] => path
  | [last] =>
    if isDoubleDot last then path.dropLast ++ [""]
    else if isSingleDot last then path ++ [""]
    else path ++ [segmentText last]
  | segment :: rest =>
    if isDoubleDot segment then addSegments path.dropLast rest
    else if isSingleDot segment then addSegments path rest
    else addSegments (path ++ [segmentText segment]) rest

/-! ## What follows the path -/

/-- A text cut into path, query and fragment. -/
structure Tail where
  path : List Char
  query : Option (List Char)
  fragment : Option (List Char)

/-- What stands behind the first `mark`, if it stands there. -/
def behind? (mark : Char) (cs : List Char) : Option (List Char) :=
  match cs.dropWhile (· != mark) with
  | [] => none
  | _ :: rest => some rest

/-- Cuts off the fragment, and then the query. -/
def Tail.split (cs : List Char) : Tail :=
  let front := cs.takeWhile (· != '#')
  { path := front.takeWhile (· != '?')
    query := behind? '?' front
    fragment := behind? '#' cs }

/-- The query as a URL holds it. -/
def Tail.queryText (tail : Tail) (special : Bool) : Option String :=
  tail.query.map fun cs => String.ofList (percentEncode (encodedInQuery special) cs)

/-- The fragment as a URL holds it. -/
def Tail.fragmentText (tail : Tail) : Option String :=
  tail.fragment.map fun cs => String.ofList (percentEncode encodedInFragment cs)

/-! ## Authorities -/

/-- What stands before and behind the last `@`, if there is one. -/
def splitUserinfo (cs : List Char) : List Char × List Char :=
  let hostSide := (cs.reverse.takeWhile (· != '@')).reverse
  (cs.take (cs.length - hostSide.length - 1), hostSide)

/-- A name and a password as an authority holds them; an empty password is left out. -/
def userinfoText (cs : List Char) : String :=
  let name := percentEncode encodedInUserinfo (cs.takeWhile (· != ':'))
  let password := percentEncode encodedInUserinfo ((behind? ':' cs).getD [])
  String.ofList (if password.isEmpty then name else name ++ ':' :: password)

/-- The text of a host up to the colon before the port; colons in brackets belong to the
host. -/
def splitPort (bracketed : Bool) : List Char → List Char × List Char
  | [] => ([], [])
  | c :: rest =>
    if c == ':' && !bracketed then ([], c :: rest)
    else
      let (host, port) := splitPort (c == '[' || (bracketed && c != ']')) rest
      (c :: host, port)

/-- Reads a port: nothing, or digits up to 65535. -/
def readPort (scheme : String) : List Char → Except Fault (Option Nat)
  | ':' :: digits =>
    if digits.isEmpty then .ok none
    else if digits.all Char.isDigit then
      let port := Nat.ofDigitChars 10 digits 0
      if 65535 < port then .error .invalidPort
      else if usualPort? scheme = some port then .ok none
      else .ok (some port)
    else .error .invalidPort
  | _ => .ok none

/-- Reads an authority. -/
def readAuthority (toAscii : DomainReader) (scheme : String) (cs : List Char) : Except Fault Authority := do
  let special := isSpecialScheme scheme
  let (userinfo, hostSide) := splitUserinfo cs
  let (hostText, portText) := splitPort false hostSide
  let userinfo := userinfoText userinfo
  let host ← readHost toAscii special hostText
  if hostText.isEmpty && (cs.contains '@' || !portText.isEmpty) then
    .error .emptyHost
  let port ← readPort scheme portText
  return { userinfo, host, port }

/-! ## Absolute URLs and references -/

/-- A text without the control characters and spaces at its ends, and without tabs and
line breaks. -/
def cleaned (cs : List Char) : List Char :=
  let front := cs.dropWhile (·.toNat ≤ 0x20)
  (front.reverse.dropWhile (·.toNat ≤ 0x20)).reverse.filter
    fun c => !(c == '\t' || c == '\n' || c == '\r')

/-- Whether a character may stand in a scheme. -/
def isSchemeChar (c : Char) : Bool := c.isAlphanum || c == '+' || c == '-' || c == '.'

/-- The scheme of a text, in lower case, and what follows its colon. -/
def splitScheme? (cs : List Char) : Option (String × List Char) :=
  match cs.head?, cs.dropWhile isSchemeChar with
  | some first, ':' :: rest =>
    if first.isAlpha then
      some (String.ofList ((cs.takeWhile isSchemeChar).map Char.toLower), rest)
    else none
  | _, _ => none

/-- The segments of the path behind an authority. -/
def pathBehindAuthority (special : Bool) (cs : List Char) : List String :=
  match cs with
  | [] => if special then addSegments [] [[]] else []
  | c :: rest =>
    if isSlash special c then addSegments [] (splitSlashes special rest)
    else addSegments [] (splitSlashes special (c :: rest))

/-- Reads what follows two slashes. -/
def readBehindSlashes (toAscii : DomainReader) (scheme : String) (cs : List Char) :
    Except Fault Url := do
  let special := isSpecialScheme scheme
  let ends := fun c => isSlash special c || c == '?' || c == '#'
  let authority ← readAuthority toAscii scheme (cs.takeWhile fun c => !ends c)
  let tail := Tail.split (cs.dropWhile fun c => !ends c)
  return {
    scheme
    authority := some authority
    path := .segments (pathBehindAuthority special tail.path)
    query := tail.queryText special
    fragment := tail.fragmentText }

/-- Reads what follows the scheme and its colon. -/
def readBehindScheme (toAscii : DomainReader) (scheme : String) (cs : List Char) :
    Except Fault Url :=
  if isSpecialScheme scheme then
    readBehindSlashes toAscii scheme (cs.dropWhile (isSlash true))
  else
    match cs with
    | '/' :: '/' :: rest => readBehindSlashes toAscii scheme rest
    | cs =>
      let tail := Tail.split cs
      .ok {
        scheme
        authority := none
        path :=
          match tail.path with
          | '/' :: rest => .segments (addSegments [] (splitSlashes false rest))
          | text => .unstructured (String.ofList (percentEncode isControl text))
        query := tail.queryText false
        fragment := tail.fragmentText }

/-- Reads a reference that starts with neither a slash nor a mark, relative to a base: it
takes the place of the base's last segment, its query and its fragment. -/
def readRelative (base : Url) (cs : List Char) : Except Fault Url :=
  match base.path with
  | .unstructured _ => .error .baseWithoutPath
  | .segments segments =>
    let special := isSpecialScheme base.scheme
    let tail := Tail.split cs
    .ok { base with
      path := .segments (addSegments segments.dropLast (splitSlashes special tail.path))
      query := tail.queryText special
      fragment := tail.fragmentText }

/-- Reads an absolute URL of the given scheme; `cs` is the text behind the scheme's
colon. -/
def read (toAscii : DomainReader) (scheme : String) (cs : List Char) : Except Fault Url :=
  readBehindScheme toAscii scheme (cleaned cs)

/-- Reads a reference that starts with a letter, relative to a base unless it names a
scheme of its own. -/
def join (toAscii : DomainReader) (base : Url) (reference : List Char) : Except Fault Url :=
  match splitScheme? (cleaned reference) with
  | some (scheme, rest) => readBehindScheme toAscii scheme rest
  | none => readRelative base (cleaned reference)

end ReplicaWatch.Url
