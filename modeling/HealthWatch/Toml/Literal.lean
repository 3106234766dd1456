import HealthWatch.Binary64.Shortest
import HealthWatch.Json.Decode
import HealthWatch.Toml
/-!
# Literals of TOML

Strings of the four kinds, numbers, and dates. Each reader takes what it can from the front of a
text and leaves the rest; none means that nothing there is a literal of the kind.
-/

namespace HealthWatch.Toml

/-- A reader of the front of a text, which leaves the text after it. -/
abbrev Reader (α : Type) := List Char → Option (α × List Char)

/-- Whether a character is a space or a tab. -/
def isSpace (c : Char) : Bool := c = ' ' || c = '\t'

/-- Whether a character may stand in comments and strings. -/
def isPlain (c : Char) : Bool := c = '\t' || (0x20 ≤ c.toNat && c.toNat ≠ 0x7F)

/-- The text after a line end at its front. -/
def cutLineEnd : List Char → Option (List Char)
  | '\n' :: rest => some rest
  | '\r' :: '\n' :: rest => some rest
  | _ => none

/-- The characters that pass a test, at the front of a text. -/
def span (test : Char → Bool) (cs : List Char) : List Char × List Char :=
  (cs.takeWhile test, cs.dropWhile test)

/-! ## Strings -/

/-- The character of a code point, none for one of a pair or one out of range. -/
def scalar? (n : Nat) : Option Char :=
  if n < 0xD800 ∨ (0xE000 ≤ n ∧ n < 0x110000) then some (Char.ofNat n) else none

def hexNumber (ds : List Char) : Nat := ds.foldl (fun v d => 16 * v + Json.hexValue d) 0

def cutCodePoint (count : Nat) : Reader Char := fun cs =>
  let digits := cs.take count
  if digits.length = count ∧ digits.all Json.isHex then
    (scalar? (hexNumber digits)).map (·, cs.drop count)
  else none

/-- The character of an escape, after its backslash. -/
def cutEscape : Reader Char
  | 'b' :: rest => some ('\x08', rest)
  | 't' :: rest => some ('\t', rest)
  | 'n' :: rest => some ('\n', rest)
  | 'f' :: rest => some ('\x0c', rest)
  | 'r' :: rest => some ('\r', rest)
  | '"' :: rest => some ('"', rest)
  | '\\' :: rest => some ('\\', rest)
  | 'u' :: rest => cutCodePoint 4 rest
  | 'U' :: rest => cutCodePoint 8 rest
  | _ => none

/-- Blanks and line ends, all of them. -/
def skipLines : Nat → List Char → List Char
  | 0, cs => cs
  | fuel + 1, cs =>
    match cutLineEnd cs with
    | some rest => skipLines fuel rest
    | none =>
      match cs with
      | c :: rest => if isSpace c then skipLines fuel rest else c :: rest
      | [] => []

/-- The text after blanks up to the end of the line, that line end, and all blanks and line ends
that follow. -/
def cutContinuation (cs : List Char) : Option (List Char) :=
  (cutLineEnd (cs.dropWhile isSpace)).map fun rest => skipLines rest.length rest

/-- The contents of a string of one line with escapes, after its first quote. -/
def cutBasic : Nat → Reader (List Char)
  | 0, _ => none
  | _ + 1, [] => none
  | _ + 1, '"' :: rest => some ([], rest)
  | fuel + 1, '\\' :: rest => do
    let (c, rest) ← cutEscape rest
    let (cs, rest) ← cutBasic fuel rest
    return (c :: cs, rest)
  | fuel + 1, c :: rest =>
    if isPlain c then (cutBasic fuel rest).map fun p => (c :: p.1, p.2) else none

/-- The quotes that close a string of several lines, one or two more of them belonging to its
contents; none when fewer than three stand there. -/
def cutClosing (quote : Char) (cs : List Char) : Option (List Char × List Char) :=
  let (quotes, rest) := span (· = quote) cs
  if quotes.length < 3 then none
  else
    let inside := min (quotes.length - 3) 2
    some (quotes.take inside, quotes.drop (inside + 3) ++ rest)

/-- The contents of a string of several lines, after its first quotes; `escapes` says whether a
backslash has a meaning. -/
def cutLines (quote : Char) (escapes : Bool) : Nat → Reader (List Char)
  | 0, _ => none
  | _ + 1, [] => none
  | fuel + 1, c :: rest =>
    match cutClosing quote (c :: rest), cutLineEnd (c :: rest) with
    | some closed, _ => some closed
    | none, some rest => (cutLines quote escapes fuel rest).map fun p => ('\n' :: p.1, p.2)
    | none, none =>
      if escapes ∧ c = '\\' then
        match cutContinuation rest with
        | some rest => cutLines quote escapes fuel rest
        | none => do
          let (e, rest) ← cutEscape rest
          let (cs, rest) ← cutLines quote escapes fuel rest
          return (e :: cs, rest)
      else if isPlain c then (cutLines quote escapes fuel rest).map fun p => (c :: p.1, p.2)
      else none

/-- The contents of a literal string of one line, after its first quote. -/
def cutLiteral (cs : List Char) : Option (List Char × List Char) :=
  match span (fun c => isPlain c && c ≠ '\'') cs with
  | (contents, '\'' :: rest) => some (contents, rest)
  | _ => none

/-- The text without a line end at its front. -/
def dropLineEnd (cs : List Char) : List Char := (cutLineEnd cs).getD cs

def cutString : Reader (List Char)
  | '"' :: '"' :: '"' :: rest => cutLines '"' true (rest.length + 1) (dropLineEnd rest)
  | '"' :: rest => cutBasic (rest.length + 1) rest
  | '\'' :: '\'' :: '\'' :: rest => cutLines '\'' false (rest.length + 1) (dropLineEnd rest)
  | '\'' :: rest => cutLiteral rest
  | _ => none

/-! ## Numbers -/

/-- Digits of a kind, with single underscores between them; the underscores are left out. -/
def cutDigits (isDigit : Char → Bool) : Reader (List Char)
  | [] => none
  | d :: '_' :: rest =>
    if isDigit d then (cutDigits isDigit rest).map fun p => (d :: p.1, p.2) else none
  | d :: rest =>
    if isDigit d then
      match cutDigits isDigit rest with
      | some (ds, rest) => some (d :: ds, rest)
      | none => if rest.head?.any isDigit then none else some ([d], rest)
    else none

def cutSign : List Char → List Char × List Char
  | '+' :: rest => (['+'], rest)
  | '-' :: rest => (['-'], rest)
  | rest => ([], rest)

/-- A decimal numeral without needless zeros at its front. -/
def cutDecimal : Reader (List Char)
  | '0' :: rest => some (['0'], rest)
  | cs => cutDigits Char.isDigit cs

/-- The integer, if it fits into 64 bits with a sign. -/
def integer? (i : Int) : Option Toml :=
  if -0x8000_0000_0000_0000 ≤ i ∧ i < 0x8000_0000_0000_0000 then some (.integer i) else none

/-- Whether a digit belongs to a numeral to base eight. -/
def isOctal (c : Char) : Bool := '0' ≤ c && c ≤ '7'

/-- Whether a digit belongs to a numeral to base two. -/
def isBinary (c : Char) : Bool := c = '0' || c = '1'

/-- An integer that digits to some base stand for. -/
def cutBased (base : Nat) (isDigit : Char → Bool) : Reader Toml := fun cs => do
  let (ds, rest) ← cutDigits isDigit cs
  let i ← integer? ((ds.foldl (fun v d => base * v + Json.hexValue d) 0 : Nat) : Int)
  return (i, rest)

def cutInteger : Reader Toml
  | '0' :: 'x' :: rest => cutBased 16 Json.isHex rest
  | '0' :: 'o' :: rest => cutBased 8 isOctal rest
  | '0' :: 'b' :: rest => cutBased 2 isBinary rest
  | cs => do
    let (sign, rest) := cutSign cs
    let (ds, rest) ← cutDecimal rest
    let n : Int := Numeral.value ds
    let i ← integer? (if sign = ['-'] then -n else n)
    return (i, rest)

/-- The exponent of a float, from its letter on. -/
def cutExponent : Reader (Int × List Char)
  | c :: rest =>
    if c = 'e' || c = 'E' then do
      let (sign, rest) := cutSign rest
      let (ds, rest) ← cutDigits Char.isDigit rest
      let n : Int := Numeral.value ds
      return ((if sign = ['-'] then -n else n, c :: sign ++ ds), rest)
    else none
  | [] => none

/-- Whether digits scaled by a power of ten are too much for a double. -/
def exceedsDouble (digits : List Char) (exponent : Int) : Bool :=
  let significant := digits.dropWhile (· = '0')
  let magnitude := significant.length + exponent
  if significant = [] ∨ magnitude < 309 then false
  else if magnitude > 309 then true
  else
    (Binary64.nearest? false
      ((Binary64.Ratio.mk (Numeral.value significant) 1).scaleTen exponent)).isNone

/-- A number with a fraction or an exponent. Of those too great only the negative are taken. -/
def cutFloat (cs : List Char) : Option (Toml × List Char) := do
  let (sign, rest) := cutSign cs
  let (whole, rest) ← cutDecimal rest
  let (fraction, rest) ← match rest with
    | '.' :: rest => cutDigits Char.isDigit rest
    | c :: _ => if c = 'e' || c = 'E' then some ([], rest) else none
    | [] => none
  let ((exponent, power), rest) := (cutExponent rest).getD ((0, []), rest)
  let point := if fraction = [] then [] else ['.']
  if sign ≠ ['-'] ∧ exceedsDouble (whole ++ fraction) (exponent - fraction.length) then none
  else return (.float (String.ofList (sign ++ whole ++ point ++ fraction ++ power)), rest)

/-- An infinity, or what is not a number. -/
def cutSpecial (cs : List Char) : Option (Toml × List Char) :=
  match cutSign cs with
  | (sign, 'i' :: 'n' :: 'f' :: rest) =>
    some (.float (String.ofList (sign ++ ['i', 'n', 'f'])), rest)
  | (sign, 'n' :: 'a' :: 'n' :: rest) =>
    some (.float (String.ofList (sign ++ ['n', 'a', 'n'])), rest)
  | _ => none

/-! ## Dates and times -/

/-- A number of so many digits between two bounds. -/
def cutField (count low high : Nat) : Reader Nat := fun cs =>
  let ds := cs.take count
  let n := Numeral.value ds
  if ds.length = count ∧ ds.all Char.isDigit ∧ low ≤ n ∧ n ≤ high then some (n, cs.drop count)
  else none

/-- The rest of a text that begins with a character. -/
def cutChar (c : Char) : List Char → Option (List Char)
  | d :: rest => if d = c then some rest else none
  | [] => none

def daysOfMonth (year month : Nat) : Nat :=
  if month = 2 then
    if year % 4 = 0 ∧ (year % 100 ≠ 0 ∨ year % 400 = 0) then 29 else 28
  else if month ∈ [4, 6, 9, 11] then 30
  else 31

def cutDate : Reader (List Char) := fun cs => do
  let (year, rest) ← cutField 4 0 9999 cs
  let rest ← cutChar '-' rest
  let (month, rest) ← cutField 2 1 12 rest
  let rest ← cutChar '-' rest
  let (day, rest) ← cutField 2 1 (daysOfMonth year month) rest
  return (Numeral.padded 4 year ++ '-' :: Numeral.padded 2 month ++
    '-' :: Numeral.padded 2 day, rest)

/-- The fraction of a second, in at most nine digits without zeros at its end. -/
def secondFraction (ds : List Char) : List Char :=
  let shown := ((ds.take 9).reverse.dropWhile (· = '0')).reverse
  if shown = [] then [] else '.' :: shown

def cutTime : Reader (List Char) := fun cs => do
  let (hour, rest) ← cutField 2 0 23 cs
  let rest ← cutChar ':' rest
  let (minute, rest) ← cutField 2 0 59 rest
  let rest ← cutChar ':' rest
  let (second, rest) ← cutField 2 0 60 rest
  let (fraction, rest) ← match rest with
    | '.' :: rest =>
      let (ds, rest) := span Char.isDigit rest
      if ds = [] then none else some (secondFraction ds, rest)
    | rest => some ([], rest)
  return (Numeral.padded 2 hour ++ ':' :: Numeral.padded 2 minute ++ ':' ::
    Numeral.padded 2 second ++ fraction, rest)

/-- The distance of a local time from universal time. -/
def cutOffset : Reader (List Char)
  | 'Z' :: rest => some (['Z'], rest)
  | 'z' :: rest => some (['Z'], rest)
  | c :: rest =>
    if c = '+' || c = '-' then do
      let (hours, rest) ← cutField 2 0 23 rest
      let rest ← cutChar ':' rest
      let (minutes, rest) ← cutField 2 0 59 rest
      return (c :: Numeral.padded 2 hours ++ ':' :: Numeral.padded 2 minutes, rest)
    else none
  | [] => none

/-- The time after a date, if there is one. -/
def cutTimeOfDate : List Char → List Char × List Char
  | [] => ([], [])
  | c :: rest =>
    if c = 'T' || c = 't' || c = ' ' then
      match cutTime rest with
      | some (time, rest) =>
        match cutOffset rest with
        | some (offset, rest) => ('T' :: time ++ offset, rest)
        | none => ('T' :: time, rest)
      | none => ([], c :: rest)
    else ([], c :: rest)

/-- A date, a time, or both. -/
def cutDateTime (cs : List Char) : Option (Toml × List Char) :=
  match cutDate cs with
  | some (date, rest) =>
    let (time, rest) := cutTimeOfDate rest
    some (.dateTime (String.ofList (date ++ time)), rest)
  | none => (cutTime cs).map fun p => (.dateTime (String.ofList p.1), p.2)

/-- A number, a date or a time. -/
def cutNumberOrDate (cs : List Char) : Option (Toml × List Char) :=
  cutDateTime cs <|> cutFloat cs <|> cutSpecial cs <|> cutInteger cs

end HealthWatch.Toml
