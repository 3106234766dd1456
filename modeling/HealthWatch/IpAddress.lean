import HealthWatch.Json.Decode
import HealthWatch.Text.Numeral
/-!
# Internet addresses

Addresses of 32 and of 128 bits, their texts and the reading of literal addresses. A long address is
written with its longest run of two or more zero groups left out, the first of several that are
equally long.
-/

namespace HealthWatch

/-- An internet address. -/
inductive IpAddress where
  | v4 (bits : BitVec 32)
  | v6 (bits : BitVec 128)
  deriving DecidableEq

namespace IpAddress

/-- The number of an address among all addresses, the short ones first. -/
def rank : IpAddress → Nat
  | v4 bits => bits.toNat
  | v6 bits => 0x1_0000_0000 + bits.toNat

/-! ## Writing -/

/-- The digits of a number to a base, in so many places, the last place first. -/
def places (base : Nat) : Nat → Nat → List Nat
  | 0, _ => []
  | count + 1, n => n % base :: places base count (n / base)

def v4Text (bits : BitVec 32) : List Char :=
  ['.'].intercalate ((places 256 4 bits.toNat).reverse.map Numeral.decimal)

def groups (bits : BitVec 128) : List Nat := (places 0x1_0000 8 bits.toNat).reverse

/-- The number of zeros at the front. -/
def leadingZeros (gs : List Nat) : Nat := (gs.takeWhile (· = 0)).length

/-- The place and the length of the longest run of zeros, the first of several. -/
def longestRun (gs : List Nat) : Nat × Nat :=
  let runs := (List.range gs.length).map fun i => (i, leadingZeros (gs.drop i))
  runs.foldl (fun best run => if best.2 < run.2 then run else best) (0, 0)

def groupsText (gs : List Nat) : List Char := [':'].intercalate (gs.map (Nat.toDigits 16))

/-- The text of a long address, in groups throughout. -/
def v6Text (bits : BitVec 128) : List Char :=
  let gs := groups bits
  let (start, length) := longestRun gs
  if length < 2 then groupsText gs
  else groupsText (gs.take start) ++ [':', ':'] ++ groupsText (gs.drop (start + length))

/-- The text of an address. A long address that stands for a short one shows it. -/
def text : IpAddress → List Char
  | v4 bits => v4Text bits
  | v6 bits =>
    if bits.toNat / 0x1_0000_0000 = 0xFFFF then
      "::ffff:".toList ++ v4Text (BitVec.ofNat 32 bits.toNat)
    else v6Text bits

/-! ## Reading -/

/-- One of the four numbers of a short address: at most three digits, without needless zeros. -/
def cutOctet (cs : List Char) : Option (Nat × List Char) :=
  let ds := cs.takeWhile Char.isDigit
  let n := Numeral.value ds
  if ds = [] ∨ ds.length > 3 ∨ (ds.length > 1 ∧ ds.head? = some '0') ∨ n > 255 then none
  else some (n, cs.dropWhile Char.isDigit)

/-- The numbers of a short address that follow a dot, and the text after them. -/
def cutOctets : Nat → Nat → List Char → Option (Nat × List Char)
  | 0, acc, cs => some (acc, cs)
  | count + 1, acc, '.' :: cs => do
    let (n, rest) ← cutOctet cs
    cutOctets count (acc * 256 + n) rest
  | _ + 1, _, _ => none

/-- A short address at the front of a text. -/
def cutV4 (cs : List Char) : Option (Nat × List Char) := do
  let (n, rest) ← cutOctet cs
  cutOctets 3 n rest

/-- A group of a long address: at most four hexadecimal digits. -/
def cutGroup (cs : List Char) : Option (Nat × List Char) :=
  let ds := cs.takeWhile Json.isHex
  if ds = [] ∨ ds.length > 4 then none
  else some (ds.foldl (fun v d => 16 * v + Json.hexValue d) 0, cs.dropWhile Json.isHex)

/-- Groups at the front of a text, at most so many, with colons between them; all but the first
follow a colon. A short address may take the place of the last two, and whether one does is told. -/
def cutGroups (first : Bool) : Nat → List Char → List Nat × Bool × List Char
  | 0, cs => ([], false, cs)
  | count + 1, cs =>
    let next := match first, cs with
      | true, cs => some cs
      | false, ':' :: cs => some cs
      | false, _ => none
    match next with
    | none => ([], false, cs)
    | some rest =>
      match if count > 0 then cutV4 rest else none with
      | some (n, rest) => ([n / 0x1_0000, n % 0x1_0000], true, rest)
      | none =>
        match cutGroup rest with
        | some (g, rest) =>
          let (gs, dotted, rest) := cutGroups false count rest
          (g :: gs, dotted, rest)
        | none => ([], false, cs)

def ofGroups (gs : List Nat) : BitVec 128 :=
  BitVec.ofNat 128 (gs.foldl (fun n g => n * 0x1_0000 + g) 0)

/-- A long address. Two colons stand for the zero groups that are left out, at least one. -/
def readV6? (cs : List Char) : Option (BitVec 128) :=
  match cutGroups true 8 cs with
  | (head, dotted, rest) =>
    if head.length = 8 then (if rest = [] then some (ofGroups head) else none)
    else if dotted then none
    else
      match rest with
      | ':' :: ':' :: rest =>
        match cutGroups true (7 - head.length) rest with
        | (tail, _, []) =>
          some (ofGroups (head ++ List.replicate (8 - head.length - tail.length) 0 ++ tail))
        | _ => none
      | _ => none

def readV4? (cs : List Char) : Option (BitVec 32) :=
  match cutV4 cs with
  | some (n, []) => some (BitVec.ofNat 32 n)
  | _ => none

def read? (cs : List Char) : Option IpAddress :=
  match readV4? cs with
  | some bits => some (v4 bits)
  | none => (readV6? cs).map v6

end IpAddress

end HealthWatch
