import HealthWatch.Url
/-!
# Reading URLs

Spaces and controls at both ends are left out, and tabs and line ends everywhere. Any number of
slashes, also none, may stand between the scheme and the host, and backslashes count as slashes up
to the query. The path is encoded and its dot segments are resolved.
-/

namespace HealthWatch.Url

/-- Whether a character ends the part of a URL that names the user and the host. -/
def endsAuthority (c : Char) : Bool := c = '/' || c = '\\' || c = '?' || c = '#'

/-- The text without spaces and controls at both ends, and without tabs and line ends. -/
def clean (cs : List Char) : List Char :=
  let outer (c : Char) : Bool := c.toNat ≤ 0x20
  (((cs.dropWhile outer).reverse.dropWhile outer).reverse).filter fun c => !isIgnored c

def cutScheme (cs : List Char) : Option (Scheme × List Char) :=
  let name := (cs.takeWhile fun c => c ≠ ':').map Char.toLower
  match cs.dropWhile fun c => c ≠ ':' with
  | _ :: rest =>
    if name = "http".toList then some (.http, rest)
    else if name = "https".toList then some (.https, rest)
    else none
  | [] => none

/-- The name and the password of a user, encoded: a colon stands between them. -/
def readUserinfo (cs : List Char) : List Char × List Char :=
  match Text.cutFirst ':' cs with
  | some (name, password) =>
    (Text.percentEncode inUserinfo name, Text.percentEncode inUserinfo password)
  | none => (Text.percentEncode inUserinfo cs, [])

/-- The user of an authority, which ends at its last at sign, and the text after it. -/
def cutUserinfo (cs : List Char) : (List Char × List Char) × List Char :=
  let authority := cs.takeWhile fun c => !endsAuthority c
  match Text.cutLast '@' authority with
  | some (user, rest) => (readUserinfo user, rest ++ cs.drop authority.length)
  | none => (([], []), cs)

/-- The text of the host and the text after it; a colon within brackets belongs to the host. -/
def cutHost (inBrackets : Bool) : List Char → List Char × List Char
  | [] => ([], [])
  | c :: cs =>
    if endsAuthority c || (c = ':' && !inBrackets) then ([], c :: cs)
    else
      let inside := if c = '[' then true else if c = ']' then false else inBrackets
      let (host, rest) := cutHost inside cs
      (c :: host, rest)

/-- The port after a colon, if there is one other than the default, and the text after it. -/
def cutPort (s : Scheme) : List Char → Option (Option Nat × List Char)
  | ':' :: cs =>
    let ds := cs.takeWhile Char.isDigit
    let rest := cs.dropWhile Char.isDigit
    let port := Numeral.value ds
    if port > Numeral.greatest16 ∨ rest.head?.any (fun c => !endsAuthority c) then none
    else if ds = [] ∨ port = s.defaultPort then some (none, rest)
    else some (some port, rest)
  | cs => some (none, cs)

/-- The segments of a path whose first `done` are known; `raw` is split at slashes. -/
def resolve (done : List (List Char)) : List (List Char) → List (List Char)
  | [] => done
  | [raw] =>
    let seg := Text.percentEncode inPath raw
    if isDoubleDot seg then above done ++ [[]]
    else if isSingleDot seg then done ++ [[]]
    else done ++ [seg]
  | raw :: more =>
    let seg := Text.percentEncode inPath raw
    if isDoubleDot seg then resolve (above done) more
    else if isSingleDot seg then resolve done more
    else resolve (done ++ [seg]) more

/-- The segments of a path text; it need not begin with a slash. -/
def readPath (cs : List Char) : List (List Char) :=
  let slashes := cs.map fun c => if c = '\\' then '/' else c
  resolve [] (Text.fields '/' (match slashes with
    | '/' :: rest => rest
    | rest => rest))

/-- The URL of a web service that a text means. -/
def read? (cs : List Char) : Option Url := do
  let (scheme, rest) ← cutScheme (clean cs)
  let ((username, password), rest) :=
    cutUserinfo (rest.dropWhile fun c => c = '/' || c = '\\')
  let (hostText, rest) := cutHost false rest
  if hostText = [] then none
  else
    let host ← Host.read? hostText
    let (port, rest) ← cutPort scheme rest
    let isEnd (c : Char) : Bool := c = '?' || c = '#'
    let path := readPath (rest.takeWhile fun c => !isEnd c)
    let rest := rest.dropWhile fun c => !isEnd c
    let query := match rest with
      | '?' :: rest => some (Text.percentEncode inQuery (rest.takeWhile (· ≠ '#')))
      | _ => none
    let fragment := match rest.dropWhile (· ≠ '#') with
      | _ :: rest => some (Text.percentEncode inFragment rest)
      | [] => none
    return { scheme, username, password, host, port, path, query, fragment }

end HealthWatch.Url
