import HealthWatch.Json
import HealthWatch.Json.Token
import HealthWatch.Binary64.Shortest
/-!
# Writing JSON

A value is written without spaces. In a string the quote, the backslash and the control characters
below the space are escaped and every other character stands for itself.
-/

namespace HealthWatch.Json

/-- The hexadecimal digit of a number below sixteen. -/
def hexDigit (n : Nat) : Char := if n < 10 then Char.ofNat (48 + n) else Char.ofNat (87 + n)

def escapeChar (c : Char) : List Char :=
  if c = '"' then ['\\', '"']
  else if c = '\\' then ['\\', '\\']
  else if c = '\n' then ['\\', 'n']
  else if c = '\r' then ['\\', 'r']
  else if c = '\t' then ['\\', 't']
  else if c = '\x08' then ['\\', 'b']
  else if c = '\x0c' then ['\\', 'f']
  else if c.toNat < 0x20 then
    ['\\', 'u', '0', '0', hexDigit (c.toNat / 16), hexDigit (c.toNat % 16)]
  else [c]

/-- The contents of the string literal of a text. -/
def escape (cs : List Char) : List Char := cs.flatMap escapeChar

def quoted (s : String) : List Char := '"' :: (escape s.toList ++ ['"'])

def numberText : JsonNumber → List Char
  | .integer i => (Numeral.intText i.val).toList
  | .real x => x.scientificText

mutual

def print : Json → List Char
  | null => ['n', 'u', 'l', 'l']
  | bool true => ['t', 'r', 'u', 'e']
  | bool false => ['f', 'a', 'l', 's', 'e']
  | number n => numberText n
  | string s => quoted s
  | array items => '[' :: (printItems items ++ [']'])
  | object members => '\x7b' :: (printMembers members ++ ['\x7d'])

/-- The texts of several values, separated by commas. -/
def printItems : List Json → List Char
  | [] => []
  | [j] => print j
  | j :: js => print j ++ ',' :: printItems js

/-- The texts of the members of an object, separated by commas. -/
def printMembers : List (String × Json) → List Char
  | [] => []
  | [(name, j)] => quoted name ++ ':' :: print j
  | (name, j) :: ms => quoted name ++ ':' :: (print j ++ ',' :: printMembers ms)

end

/-- The text of a value, as a string. -/
def text (j : Json) : String := String.ofList j.print

end HealthWatch.Json
