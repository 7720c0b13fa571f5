import PushRelay.Net.Host

/-!
# URLs

A `Url` has a scheme, an authority if there are two slashes behind it, a path, and possibly a query
and a fragment.  `Url.parse` reads an absolute URL by the rules of the URL Standard: white space
around it and tabs and line breaks within it do not count, the path is percent-encoded and its dot
segments are resolved.

A path is a list of segments, unless the URL cannot be a base (`mailto:x`).  `Url.extend` appends
segments to a path, each taken as it is except that `.` and `..` are left out.
-/

namespace PushRelay

/-- Why a text is no URL. -/
inductive UrlError where
  | relative
  | host (cause : HostError)
  | port
  deriving DecidableEq, Repr

def UrlError.message : UrlError → String
  | .relative => "relative URL without a base"
  | .host cause => cause.message
  | .port => "invalid port number"

structure Authority where
  /-- User name and password as they stand in front of the at sign. -/
  userInfo : Option (List Char)
  /-- The host, empty if none is named. -/
  host : List Char
  /-- A port other than the scheme's own. -/
  port : Option Nat
  deriving DecidableEq, Repr

/-- The authority that names no host. -/
def Authority.empty : Authority := ⟨none, [], none⟩

inductive UrlPath where
  | opaquePath (text : List Char)
  | segments (segments : List (List Char))
  deriving DecidableEq, Repr

structure Url where
  scheme : List Char
  authority : Option Authority
  path : UrlPath
  query : Option (List Char)
  fragment : Option (List Char)
  /-- The path is written behind `/.`, as it could be taken for an authority. -/
  isMarked : Bool
  deriving DecidableEq, Repr

namespace Url

/-! ## Schemes -/

def isFile (scheme : List Char) : Bool := scheme == "file".toList

/-- The schemes whose URLs always name a host, with their ports. -/
def networkSchemes : List (List Char × Nat) :=
  [("http".toList, 80), ("https".toList, 443), ("ws".toList, 80), ("wss".toList, 443),
    ("ftp".toList, 21)]

def isNetwork (scheme : List Char) : Bool := networkSchemes.any (·.1 == scheme)

/-- In these URLs a backslash is as good as a slash. -/
def isSpecial (scheme : List Char) : Bool := isFile scheme || isNetwork scheme

def defaultPort? (scheme : List Char) : Option Nat := networkSchemes.lookup scheme

/-! ## Paths -/

/-- Whether a segment is the letter of a drive. -/
def isDrive : List Char → Bool
  | [c, mark] => c.isAlpha && (mark == ':' || mark == '|')
  | _ => false

def doubleDots : List String :=
  ["..", "%2e%2e", "%2e%2E", "%2E%2e", "%2E%2E", "%2e.", "%2E.", ".%2e", ".%2E"]

def isDoubleDot (s : List Char) : Bool := doubleDots.contains (String.ofList s)

def isSingleDot (s : List Char) : Bool := [".", "%2e", "%2E"].contains (String.ofList s)

/-- A path with one segment more, which is the last one or not.  A double dot takes back the segment
before it, unless that is a drive. -/
def pushSegment (path : List (List Char)) (segment : List Char) (last : Bool) : List (List Char) :=
  if isDoubleDot segment then
    (if path.getLast?.any isDrive then path else path.dropLast) ++ (if last then [[]] else [])
  else if isSingleDot segment then path ++ (if last then [[]] else [])
  else path ++ [segment]

/-- Splits a text at the characters that satisfy `p`.  There is one part at least. -/
def splitWhere (p : Char → Bool) : List Char → List (List Char)
  | [] => [[]]
  | c :: s =>
    if p c then [] :: splitWhere p s
    else match splitWhere p s with
      | part :: parts => (c :: part) :: parts
      | [] => [[c]]

/-- A path with what is given as further segments. -/
def pathOf (parts path : List (List Char)) : List (List Char) :=
  match parts with
  | [] => path
  | [part] => pushSegment path (Percent.encode Percent.pathSet part) true
  | part :: parts => pathOf parts (pushSegment path (Percent.encode Percent.pathSet part) false)

def isSlash (special : Bool) (c : Char) : Bool := c == '/' || (special && c == '\\')

/-- The path of a URL with an authority, from what follows the authority. -/
def pathAfterAuthority (special : Bool) (s : List Char) : List (List Char) :=
  match s with
  | [] => if special then [[]] else []
  | c :: rest =>
    pathOf (splitWhere (isSlash special) (if isSlash special c then rest else c :: rest)) []

/-! ## Authorities -/

/-- A port, `none` for the scheme's own. -/
def port? (scheme s : List Char) : Except UrlError (Option Nat) :=
  match Host.digits? 10 s with
  | none => .error .port
  | some n =>
    if 65535 < n then .error .port
    else if s.isEmpty || defaultPort? scheme = some n then .ok none
    else .ok (some n)

/-- Splits at the first character that satisfies `p`, which belongs to the second part. -/
def spanUntil (p : Char → Bool) (s : List Char) : List Char × List Char :=
  (s.takeWhile fun c => !p c, s.dropWhile fun c => !p c)

/-- Splits in front of the colon of a port.  Colons in brackets do not count. -/
def splitPort (inBrackets : Bool) : List Char → List Char × List Char
  | [] => ([], [])
  | c :: s =>
    if c == ':' && !inBrackets then ([], c :: s)
    else
      let inBrackets := if c == '[' then true else if c == ']' then false else inBrackets
      let (host, rest) := splitPort inBrackets s
      (c :: host, rest)

/-- Splits at the last at sign. -/
def splitUserInfo (s : List Char) : Option (List Char) × List Char :=
  match splitWhere (· == '@') s with
  | [host] => (none, host)
  | parts => (some (List.intercalate ['@'] parts.dropLast), parts.getLast?.getD [])

/-- The characters that are encoded in user names and passwords. -/
def userInfoSet : List Char :=
  Percent.pathSet ++ ['/', ':', ';', '=', '@', '[', '\\', ']', '^', '|']

/-- How user name and password are written, if there are any.  An empty password is left out. -/
def userInfo? (s : List Char) : Option (List Char) :=
  let (name, rest) := spanUntil (· == ':') s
  let name := Percent.encode userInfoSet name
  match rest.drop 1 with
  | [] => if name.isEmpty then none else some name
  | password => some (name ++ ':' :: Percent.encode userInfoSet password)

/-- The authority that starts here, and what follows it.  That is a path, or nothing if it is the
end of the URL. -/
def authority? (scheme s : List Char) (isEnd : Bool) : Except UrlError (Authority × List Char) := do
  let special := isSpecial scheme
  let (front, rest) := spanUntil (isSlash special) s
  let (userInfo, front) := splitUserInfo front
  let (host, port) := splitPort false front
  let user := userInfo.bind userInfo?
  let isCut := userInfo == some [] && front.isEmpty && !(isEnd && rest.isEmpty)
  if host.isEmpty && (special || !port.isEmpty || user.isSome || isCut) then throw (.host .empty)
  let host ← ((if special then Host.parse host else Host.parseOpaque host).mapError .host)
  let (port, behind) := spanUntil (· == '\\') port
  let port ← if port.isEmpty then pure none else port? scheme (port.drop 1)
  pure (⟨user, host, port⟩, behind ++ rest)

/-! ## URLs of files -/

/-- Where a URL of a file points: its host, if any, and its path.  A path does not start with empty
segments. -/
def fileBody (host : List Char) (path : List (List Char)) : Authority × UrlPath :=
  let path := match path.dropWhile List.isEmpty with
    | [] => [[]]
    | path => path
  (⟨none, host, none⟩, .segments path)

/-- Splits a text into segments.  If it starts with a drive that has a colon from now on, and says
so. -/
def driveParts (s : List Char) : Bool × List (List Char) :=
  match splitWhere (isSlash true) s with
  | [c, d] :: parts => if isDrive [c, d] then (true, [c, ':'] :: parts) else (false, [c, d] :: parts)
  | parts => (false, parts)

/-- The authority and the path of a URL of a file.  A drive in the place of a host belongs to the
path, and one at the start of a path needs no host. -/
def file? (s : List Char) : Except UrlError (Authority × UrlPath) :=
  let noHost (s : List Char) := fileBody [] (pathOf (driveParts s).2 [])
  match s with
  | a :: b :: rest =>
    if isSlash true a && isSlash true b then
      let (host, path) := spanUntil (isSlash true) rest
      if isDrive host then .ok (noHost rest)
      else
        let plain := fileBody [] (pathAfterAuthority true path)
        if host.isEmpty then .ok plain
        else match Host.parse host with
          | .error e => .error (.host e)
          | .ok host =>
            if host = "localhost".toList then .ok plain
            else
              let (hasDrive, parts) := driveParts (path.drop 1)
              .ok (fileBody (if hasDrive then [] else host) (pathOf parts []))
    else .ok (noHost (if isSlash true a then b :: rest else s))
  | _ => .ok (noHost (s.dropWhile (isSlash true)))

/-! ## Reading -/

def isOuterBlank (c : Char) : Bool := c.toNat ≤ 32

/-- The text that counts. -/
def clean (s : List Char) : List Char :=
  (((s.dropWhile isOuterBlank).reverse.dropWhile isOuterBlank).reverse).filter
    fun c => c != '\t' && c != '\n' && c != '\r'

def isSchemeChar (c : Char) : Bool := c.isAlphanum || c == '+' || c == '-' || c == '.'

/-- A scheme in lower case and what follows its colon. -/
def scheme? (s : List Char) : Option (List Char × List Char) :=
  let (scheme, rest) := spanUntil (fun c => !isSchemeChar c) s
  match (scheme.head?.map Char.isAlpha).getD false, rest with
  | true, ':' :: rest => some (scheme.map Char.toLower, rest)
  | _, _ => none

/-- Cuts off the fragment and the query. -/
def splitTail (s : List Char) : List Char × Option (List Char) × Option (List Char) :=
  let (front, fragment) := spanUntil (· == '#') s
  let (path, query) := spanUntil (· == '?') front
  (path, if query.isEmpty then none else some (query.drop 1),
    if fragment.isEmpty then none else some (fragment.drop 1))

/-- The authority, if there is one, and the path of a URL.  Nothing follows if it is the end. -/
def body? (scheme s : List Char) (isEnd : Bool) : Except UrlError (Option Authority × UrlPath) := do
  let special := isSpecial scheme
  let withAuthority (s : List Char) : Except UrlError (Option Authority × UrlPath) := do
    let (authority, rest) ← authority? scheme s isEnd
    pure (some authority, .segments (pathAfterAuthority special rest))
  if isFile scheme then
    let (authority, path) ← file? s
    pure (some authority, path)
  else if special then withAuthority (s.dropWhile (isSlash true))
  else match s with
    | '/' :: '/' :: rest => withAuthority rest
    | '/' :: rest => pure (none, .segments (pathOf (splitWhere (· == '/') rest) []))
    | s => pure (none, .opaquePath (Percent.encode [] s))

/-- Whether a URL without authority has a path that starts with two slashes. -/
def needsMark (authority : Option Authority) (path : UrlPath) : Bool :=
  match authority, path with
  | none, .segments ([] :: _ :: _) => true
  | _, _ => false

def parse (s : String) : Except UrlError Url :=
  match scheme? (clean s.toList) with
  | none => .error .relative
  | some (scheme, rest) =>
    let (front, query, fragment) := splitTail rest
    match body? scheme front (query.isNone && fragment.isNone) with
    | .error e => .error e
    | .ok (authority, path) =>
      let querySet := if isSpecial scheme then Percent.querySet else Percent.querySet.dropLast
      .ok ⟨scheme, authority, path, query.map (Percent.encode querySet),
        fragment.map (Percent.encode Percent.fragmentSet), needsMark authority path⟩

/-- Whether the path is one text, to which no segments can be appended. -/
def cannotBeBase (u : Url) : Bool :=
  match u.path with
  | .opaquePath _ => true
  | .segments _ => false

def hasHost (u : Url) : Bool := u.authority.any fun a => !a.host.isEmpty

/-! ## Changing -/

/-- A path without its last segment if that is empty and not the only one. -/
def dropEmptyLast (path : List (List Char)) : List (List Char) :=
  if 1 < path.length && path.getLast? == some [] then path.dropLast else path

/-- A path with a segment put behind it, in which the characters of `set` are encoded.  Dots are
left out; tabs and line breaks vanish. -/
def appendSegment (set : List Char) (path : List (List Char)) (segment : List Char) :
    List (List Char) :=
  if segment = ['.'] ∨ segment = ['.', '.'] then path
  else
    let encoded := Percent.encode set
      (segment.filter fun c => c != '\t' && c != '\n' && c != '\r')
    pushSegment (if path = [[]] then [] else path) encoded true

/-- The URL with segments put behind its path, of which a last empty segment is dropped first. -/
def extend (u : Url) (segments : List String) : Url :=
  match u.path with
  | .opaquePath _ => u
  | .segments path =>
    let set := if isSpecial u.scheme then Percent.specialSegmentSet else Percent.segmentSet
    let path := segments.foldl (fun path s => appendSegment set path s.toList) (dropEmptyLast path)
    { u with path := .segments path }

/-- The URL with a pair put behind its query. -/
def addQuery (u : Url) (name value : String) : Url :=
  let pair := (name ++ "=" ++ value).toList
  let query := match u.query with
    | none => pair
    | some [] => pair
    | some query => query ++ '&' :: pair
  { u with query := some query }

/-- The URL without user name and password. -/
def withoutUserInfo (u : Url) : Url :=
  { u with authority := u.authority.map fun a => { a with userInfo := none } }

/-! ## Writing -/

/-- The path and the query, as a request names its target. -/
def target (u : Url) : List Char :=
  (match u.path with
    | .opaquePath text => text
    | .segments segments => segments.flatMap ('/' :: ·)) ++
  (match u.query with
    | none => []
    | some query => '?' :: query)

def print (u : Url) : String :=
  String.ofList (u.scheme ++ ':' ::
    (match u.authority with
      | none => if u.isMarked then ['/', '.'] else []
      | some a => ['/', '/'] ++
        (match a.userInfo with
          | none => []
          | some userInfo => userInfo ++ ['@']) ++ a.host ++
        (match a.port with
          | none => []
          | some port => ':' :: (toString port).toList)) ++ u.target ++
    (match u.fragment with
      | none => []
      | some fragment => '#' :: fragment))

end Url

end PushRelay
