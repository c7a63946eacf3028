import InferenceBench.Url.Host

/-! # URLs of servers

The URLs of this library lead to servers that speak HTTP. Reading one normalises it: slashes and
backslashes are the same in a path, the segments `.` and `..` are resolved, the port of the
scheme is left out, and characters that a part cannot hold are encoded. -/

namespace InferenceBench

inductive Url.Scheme where
  | http
  | https
  deriving Repr, DecidableEq

structure Url where
  scheme : Url.Scheme
  /-- User and password as they stand before the host, with the `@` that ends them. -/
  userinfo : List Char
  host : List Char
  /-- The port where it is not that of the scheme. -/
  port : Option Nat
  /-- The segments of the path, each of which follows a slash. -/
  path : List (List Char)
  query : Option (List Char)
  fragment : Option (List Char)
  deriving Repr, DecidableEq

namespace Url

def Scheme.text : Scheme → List Char
  | .http => "http://".toList
  | .https => "https://".toList

def Scheme.port : Scheme → Nat
  | .http => 80
  | .https => 443

/-- The scheme that a text starts with, and what follows it. -/
def Scheme.strip? (text : List Char) : Option (Scheme × List Char) :=
  match Scheme.http.text.isPrefixOf? text, Scheme.https.text.isPrefixOf? text with
  | some rest, _ => some (.http, rest)
  | none, some rest => some (.https, rest)
  | none, none => none

/-- The text of a URL. -/
def text (url : Url) : List Char :=
  url.scheme.text ++ url.userinfo ++ url.host ++
    (match url.port with
      | some port => ':' :: Nat.toDigits 10 port
      | none => []) ++
    url.path.flatMap ('/' :: ·) ++
    (match url.query with
      | some query => '?' :: query
      | none => []) ++
    (match url.fragment with
      | some fragment => '#' :: fragment
      | none => [])

def isSlash (c : Char) : Bool := c = '/' || c = '\\'

/-- Whether a character ends the part of a URL that names the server. -/
def endsAuthority (c : Char) : Bool := isSlash c || c = '?' || c = '#'

/-- The user and the password, which follows the first colon, as they stand before the host. An
empty password is left out, and so is the whole if both are empty. -/
def userinfoText (text : List Char) : List Char :=
  let user := text.takeWhile (· ≠ ':')
  let password := text.drop (user.length + 1)
  if user.isEmpty && password.isEmpty then []
  else
    percentEncode encodedInUserinfo user ++
      (if password.isEmpty then [] else ':' :: percentEncode encodedInUserinfo password) ++ ['@']

/-- The text before the last `@`, if there is one, and the text after it. -/
def splitUserinfo (authority : List Char) : List Char × List Char :=
  if authority.contains '@' then
    let backwards := authority.reverse
    ((backwards.dropWhile (· ≠ '@')).drop 1 |>.reverse, (backwards.takeWhile (· ≠ '@')).reverse)
  else ([], authority)

/-- The text before the first colon that is not in brackets, and the text from there on. -/
def splitHost (inBrackets : Bool) : List Char → List Char × List Char
  | [] => ([], [])
  | c :: rest =>
    if c = ':' && !inBrackets then ([], c :: rest)
    else
      let (host, port) := splitHost (c = '[' || (inBrackets && c ≠ ']')) rest
      (c :: host, port)

/-- A port, given with the colon before it; none where it is missing or that of the scheme. -/
def readPort? (scheme : Scheme) : List Char → Option (Option Nat)
  | [] => some none
  | _ :: digits =>
    match digitsInBase? 10 digits with
    | none => none
    | some port =>
      if 65535 < port then none
      else if digits.isEmpty || port = scheme.port then some none
      else some (some port)

/-- Whether the segment is a dot, which may be encoded. -/
def isDot (segment : List Char) : Bool :=
  ["." , "%2e"].any fun dot => segment.map Char.toLower == dot.toList

/-- Whether the segment is two dots, each of which may be encoded. -/
def isDoubleDot (segment : List Char) : Bool :=
  ["..", "%2e.", ".%2e", "%2e%2e"].any fun dots => segment.map Char.toLower == dots.toList

/-- Whether the segment names a drive; such a segment is never taken back. -/
def isDrive : List Char → Bool
  | [letter, mark] => letter.isAlpha && (mark = ':' || mark = '|')
  | _ => false

/-- The segments without the last one. -/
def takeBack (segments : List (List Char)) : List (List Char) :=
  match segments.getLast? with
  | some last => if isDrive last then segments else segments.dropLast
  | none => []

/-- The segments of a path with all dots resolved, given those before. A dot at the end leaves an
empty segment. -/
def resolveSegments (before : List (List Char)) : List (List Char) → List (List Char)
  | [] => before
  | [last] =>
    if isDoubleDot last then takeBack before ++ [[]]
    else if isDot last then before ++ [[]]
    else before ++ [last]
  | segment :: rest =>
    if isDoubleDot segment then resolveSegments (takeBack before) rest
    else if isDot segment then resolveSegments before rest
    else resolveSegments (before ++ [segment]) rest

/-- The segments of a path, which need not start with a slash. -/
def readPath (text : List Char) : List (List Char) :=
  let text := match text with
    | c :: rest => if isSlash c then rest else text
    | [] => []
  resolveSegments [] ((Text.partsBy isSlash text).map (percentEncode encodedInPath))

/-- The parts before and after a mark, the second one none without mark. -/
def cutAt (mark : Char) (text : List Char) : List Char × Option (List Char) :=
  match Text.splitAtChar? mark text with
  | some (before, after) => (before, some after)
  | none => (text, none)

/-- The characters that a URL is read without, wherever they stand. -/
def isDropped (c : Char) : Bool := c = '\t' || c = '\n' || c = '\r'

/-- The URL that a text spells. -/
def ofText? (text : List Char) : Option Url :=
  match Scheme.strip? text with
  | none => none
  | some (scheme, rest) =>
    let rest := (rest.reverse.dropWhile (·.toNat ≤ 0x20)).reverse.filter (!isDropped ·)
    let rest := rest.dropWhile isSlash
    let authority := rest.takeWhile (!endsAuthority ·)
    let (beforeFragment, fragment) := cutAt '#' (rest.drop authority.length)
    let (path, query) := cutAt '?' beforeFragment
    let (user, place) := splitUserinfo authority
    let (host, port) := splitHost false place
    match hostText? host, readPort? scheme port with
    | some host, some port =>
      some
        { scheme
          userinfo := userinfoText user
          host
          port
          path := readPath path
          query := query.map (percentEncode encodedInQuery)
          fragment := fragment.map (percentEncode encodedInFragment) }
    | _, _ => none

end Url

end InferenceBench
