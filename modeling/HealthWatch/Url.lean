import HealthWatch.Url.Host
/-!
# URLs of web services

The URLs of the schemes `http` and `https`, in the normal form in which they are sent: encoded, with
the path as the list of its segments, of which there is at least one.
-/

namespace HealthWatch

namespace Url

/-- The schemes of web services. -/
inductive Scheme where
  | http
  | https
  deriving DecidableEq, Repr

def Scheme.text : Scheme → List Char
  | http => "http".toList
  | https => "https".toList

/-- The port that need not be written. -/
def Scheme.defaultPort : Scheme → Nat
  | http => 80
  | https => 443

end Url

/-- A URL of a web service. -/
structure Url where
  scheme : Url.Scheme
  username : List Char := []
  password : List Char := []
  host : Url.Host
  /-- The port, unless it is the default of the scheme. -/
  port : Option Nat := none
  /-- The segments of the path, at least one. -/
  path : List (List Char)
  query : Option (List Char) := none
  fragment : Option (List Char) := none
  deriving DecidableEq

namespace Url

/-! ## What is encoded where -/

/-- Controls. -/
def isControl (c : Char) : Bool := c.toNat < 0x20 || c.toNat = 0x7F

def inFragment (c : Char) : Bool := isControl c || c ∈ [' ', '"', '<', '>', '\x60']

def inQuery (c : Char) : Bool := isControl c || c ∈ [' ', '"', '#', '<', '>', '\'']

def inPath (c : Char) : Bool := inFragment c || c ∈ ['#', '?', '\x7b', '\x7d']

/-- What is encoded in a segment that is added to a path. -/
def inSegment (c : Char) : Bool := inPath c || c ∈ ['/', '%', '\\']

/-- What is encoded in names and passwords of users. -/
def inUserinfo (c : Char) : Bool :=
  inPath c || c ∈ ['/', ':', ';', '=', '@', '[', '\\', ']', '^', '|']

/-! ## Text -/

/-- The name and the password of the user, if there is either. -/
def userinfo (u : Url) : List Char :=
  if u.username = [] ∧ u.password = [] then []
  else u.username ++ (if u.password = [] then [] else ':' :: u.password) ++ ['@']

def pathText (u : Url) : List Char := u.path.flatMap ('/' :: ·)

/-- A mark and a part that follows it, if there is one. -/
def marked (mark : Char) : Option (List Char) → List Char
  | some part => mark :: part
  | none => []

def text (u : Url) : List Char :=
  u.scheme.text ++ "://".toList ++ u.userinfo ++ u.host.text ++
    marked ':' (u.port.map Numeral.decimal) ++ u.pathText ++ marked '?' u.query ++
    marked '#' u.fragment

/-! ## Paths -/

/-- Whether a segment means the segment above. -/
def isDoubleDot (seg : List Char) : Bool :=
  let small := seg.map Char.toLower
  small ∈ ["..".toList, "%2e%2e".toList, "%2e.".toList, ".%2e".toList]

/-- Whether a segment means the place where it stands. -/
def isSingleDot (seg : List Char) : Bool :=
  let small := seg.map Char.toLower
  small ∈ [".".toList, "%2e".toList]

/-- Whether a segment names a drive, above which no segment leads. -/
def isDrive : List Char → Bool
  | [c, d] => c.isAlpha && (d = ':' || d = '|')
  | _ => false

/-- The segments above the place that the last segment names. -/
def above (path : List (List Char)) : List (List Char) :=
  if path.getLast?.any isDrive then path else path.dropLast

/-- Tabs and line ends are passed over wherever they stand. -/
def isIgnored (c : Char) : Bool := c = '\t' || c = '\n' || c = '\r'

/-- The URL without an empty segment at the end of its path, if it has another. -/
def popIfEmpty (u : Url) : Url :=
  if u.path.length > 1 ∧ u.path.getLast? = some [] then { u with path := u.path.dropLast } else u

/-- The path with one more segment, encoded. A path of one empty segment is replaced. -/
def addSegment (path : List (List Char)) (raw : List Char) : List (List Char) :=
  if raw = ['.'] ∨ raw = ['.', '.'] then path
  else
    let before := if path = [[]] then [] else path
    let seg := Text.percentEncode inSegment (raw.filter fun c => !isIgnored c)
    if isDoubleDot seg then above before ++ [[]]
    else if isSingleDot seg then before ++ [[]]
    else before ++ [seg]

/-- The URL with more segments at the end of its path. -/
def extend (u : Url) (segments : List (List Char)) : Url :=
  { u with path := segments.foldl addSegment u.path }

end Url

end HealthWatch
