import HealthWatch.IpAddress
import HealthWatch.Text.Blank
import HealthWatch.Text.Lowercase
import HealthWatch.Text.Percent
import HealthWatch.Text.Split
import HealthWatch.Url.Punycode
/-!
# Hosts of URLs

A host is a domain or an address. Domains are brought to ASCII: capitals become small, and a label
with other characters is encoded. A host whose last label is a number has to be an address of 32
bits, whose parts may also be octal or hexadecimal numbers and whose last part fills up the rest.
-/

namespace HealthWatch.Url

/-- A host. -/
inductive Host where
  | domain (name : List Char)
  | v4 (bits : BitVec 32)
  | v6 (bits : BitVec 128)
  deriving DecidableEq

def Host.text : Host → List Char
  | domain name => name
  | v4 bits => IpAddress.v4Text bits
  | v6 bits => '[' :: (IpAddress.v6Text bits ++ [']'])

namespace Host

/-- Whether a character may not stand in a domain. -/
def isForbidden (c : Char) : Bool :=
  c.toNat ≤ 0x20 || c.toNat = 0x7F ||
    c ∈ ['#', '%', '/', ':', '<', '>', '?', '@', '[', '\\', ']', '^', '|']

/-! ## Domains -/

/-- The character that stands for a character of a domain before it is encoded: small letters for
capitals, ASCII for its wide forms, and a dot for the dots of other scripts; none for a character
that is passed over. -/
def foldChar (c : Char) : Option Char :=
  let n := c.toNat
  if n = 0xAD ∨ n = 0x200B ∨ n = 0x2060 ∨ n = 0xFEFF then none
  else if n = 0x3002 ∨ n = 0xFF61 then some '.'
  else if 0xFF01 ≤ n ∧ n ≤ 0xFF5E then some (Text.lowerChar (Char.ofNat (n - 0xFEE0)))
  else some (Text.lowerChar c)

def encodedMark : List Char := ['x', 'n', '-', '-']

def labelToAscii? (label : List Char) : Option (List Char) :=
  if label.all (·.toNat < 0x80) then
    if encodedMark.isPrefixOf label then
      match Punycode.decode? (label.drop 4) with
      | some decoded => if decoded.all (·.toNat < 0x80) then none else some label
      | none => none
    else some label
  else if label.any fun c => c = '\uFFFD' || (Text.isBlank c) then none
  else some (encodedMark ++ Punycode.encode label)

def domainToAscii? (cs : List Char) : Option (List Char) := do
  let labels ← (Text.fields '.' (cs.filterMap foldChar)).mapM labelToAscii?
  return ['.'].intercalate labels

/-! ## Addresses of 32 bits -/

/-- A part of an address: a number with the base that its first digits show. The outer none means
that it is no number, the inner one that it is too great. -/
def readPart? (cs : List Char) : Option (Option Nat) :=
  let number (base : Nat) (isDigit : Char → Bool) (ds : List Char) : Option (Option Nat) :=
    if ds.all isDigit then
      let n := ds.foldl (fun v d => base * v + Json.hexValue d) 0
      some (if n < 0x1_0000_0000 then some n else none)
    else none
  match cs with
  | [] => none
  | '0' :: 'x' :: ds => number 16 Json.isHex ds
  | '0' :: 'X' :: ds => number 16 Json.isHex ds
  | '0' :: d :: ds => number 8 (fun c => '0' ≤ c && c ≤ '7') (d :: ds)
  | ds => number 10 Char.isDigit ds

/-- The labels of a domain without an empty one at its end. -/
def labels (cs : List Char) : List (List Char) :=
  let parts := Text.fields '.' cs
  if parts.length > 1 ∧ parts.getLast? = some [] then parts.dropLast else parts

/-- Whether the last label of a domain is a number, so that the domain has to be an address. -/
def endsInNumber (cs : List Char) : Bool :=
  match (labels cs).getLast? with
  | some [] => false
  | some label => label.all Char.isDigit || (readPart? label).isSome
  | none => false

/-- The address that a domain means whose last label is a number. -/
def readV4? (cs : List Char) : Option (BitVec 32) := do
  let parts := labels cs
  let numbers ← parts.mapM fun p => (readPart? p).bind id
  let last ← numbers.getLast?
  let front := numbers.dropLast
  if parts.length ≤ 4 ∧ front.all (· ≤ 255) ∧ last < Nat.pow 256 (4 - front.length) then
    let high := front.foldl (fun v n => v * 256 + n) 0
    some (BitVec.ofNat 32 (high * Nat.pow 256 (4 - front.length) + last))
  else none

/-- The host that a text means. -/
def read? (cs : List Char) : Option Host :=
  match cs with
  | '[' :: rest =>
    if rest.getLast? = some ']' then (IpAddress.readV6? rest.dropLast).map v6 else none
  | _ => do
    let name ← domainToAscii? (Text.percentDecodeText cs)
    if name = [] ∨ name.any isForbidden then none
    else if endsInNumber name then (readV4? name).map v4
    else some (domain name)

end Host

end HealthWatch.Url
