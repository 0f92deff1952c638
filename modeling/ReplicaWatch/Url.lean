import ReplicaWatch.Url.Host

/-! # URLs

The parts of a URL and its text. Every part is kept as it is written in the text, so that
a character which needs percent encoding is already encoded. A path is a list of
segments, or, in a URL that no other can be relative to, an unstructured text.
-/

namespace ReplicaWatch

/-- Who serves a URL. -/
structure Url.Authority where
  /-- The name and the password before the host; empty when there are none. -/
  userinfo : String
  host : Url.Host
  /-- The port, unless it is the usual one of the scheme. -/
  port : Option Nat
  deriving DecidableEq

/-- The path of a URL. -/
inductive Url.Path where
  | segments (parts : List String)
  | unstructured (text : String)
  deriving DecidableEq

/-- A URL. -/
structure Url where
  scheme : String
  authority : Option Url.Authority
  path : Url.Path
  query : Option String
  fragment : Option String
  deriving DecidableEq

namespace Url

/-- Whether a scheme is one of the web's own, for which URLs are read more strictly. -/
def isSpecialScheme (scheme : String) : Bool :=
  ["http", "https", "ws", "wss", "ftp"].contains scheme

/-- The port that a scheme uses when none is given. -/
def usualPort? (scheme : String) : Option Nat :=
  match scheme with
  | "http" => some 80
  | "ws" => some 80
  | "https" => some 443
  | "wss" => some 443
  | "ftp" => some 21
  | _ => none

namespace Authority

/-- The text of an authority. -/
def chars (authority : Authority) : List Char :=
  (if authority.userinfo.isEmpty then [] else authority.userinfo.toList ++ ['@']) ++
    authority.host.chars ++
    (match authority.port with
      | none => []
      | some port => ':' :: Nat.toDigits 10 port)

end Authority

namespace Path

/-- The text of a path: each segment behind a slash. -/
def chars : Path → List Char
  | .segments parts => parts.flatMap fun part => '/' :: part.toList
  | .unstructured text => text.toList

/-- The text of a path. -/
def text (path : Path) : String := String.ofList path.chars

/-- The path with an empty segment at its end, unless one is there already. -/
def closed : Path → Path
  | .segments parts =>
    if parts.getLast? = some "" then .segments parts else .segments (parts ++ [""])
  | .unstructured text =>
    if text.toList.getLast? = some '/' then .unstructured text else .unstructured (text ++ "/")

end Path

/-- The text behind the host. A path without a host that would look like one is set off
by a point. -/
def tailChars (url : Url) : List Char :=
  (match url.authority, url.path with
    | none, .segments ("" :: _ :: _) => ['/', '.']
    | _, _ => []) ++
    url.path.chars ++
    (match url.query with
      | none => []
      | some query => '?' :: query.toList)

/-- The text of a URL. -/
def text (url : Url) : String :=
  String.ofList (url.scheme.toList ++ ':' ::
    ((match url.authority with
        | none => []
        | some authority => '/' :: '/' :: authority.chars) ++
      url.tailChars ++
      (match url.fragment with
        | none => []
        | some fragment => '#' :: fragment.toList)))

/-- The part of a URL that a request names: its path and its query. -/
def requestTarget (url : Url) : String :=
  String.ofList (url.path.chars ++
    (match url.query with
      | none => []
      | some query => '?' :: query.toList))

/-- The URL with named values behind its query. -/
def addQuery (url : Url) (pairs : List Char) : Url :=
  { url with
    query :=
      match url.query with
      | none => some (String.ofList pairs)
      | some query =>
        if query.isEmpty then some (String.ofList pairs)
        else some (query ++ "&" ++ String.ofList pairs) }

end Url

end ReplicaWatch
