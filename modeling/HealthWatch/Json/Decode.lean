import HealthWatch.Json
import HealthWatch.Json.Outline
/-!
# Reading JSON values

The texts of string literals, the values of numbers, and the values of whole texts. Escapes of
code units have to pair up into characters. A number without fraction and exponent is an integer if
it fits into 64 bits. Any other is a double: its digits are taken into a significand as long as 64
bits hold them, and the significand is then scaled by a power of ten, each step rounded.
-/

namespace HealthWatch.Json

def hexValue (c : Char) : Nat :=
  if c.isDigit then c.toNat - 48
  else if 'a' ≤ c then c.toNat - 87
  else c.toNat - 55

def unitValue (h1 h2 h3 h4 : Char) : Nat :=
  ((hexValue h1 * 16 + hexValue h2) * 16 + hexValue h3) * 16 + hexValue h4

/-- Whether a code unit is the first of a pair. -/
def isHighUnit (n : Nat) : Bool := 0xD800 ≤ n && n < 0xDC00

/-- Whether a code unit is the second of a pair. -/
def isLowUnit (n : Nat) : Bool := 0xDC00 ≤ n && n < 0xE000

def pairChar (high low : Nat) : Char :=
  Char.ofNat (0x10000 + (high - 0xD800) * 0x400 + (low - 0xDC00))

def shortEscape (c : Char) : Char :=
  match c with
  | 'b' => '\x08'
  | 'f' => '\x0c'
  | 'n' => '\n'
  | 'r' => '\r'
  | 't' => '\t'
  | c => c

/-- The text that the contents of a string literal stand for, none when a code unit of a pair stands
alone. -/
def unescape : List Char → Option (List Char)
  | [] => some []
  | '\\' :: 'u' :: h1 :: h2 :: h3 :: h4 :: rest =>
    let high := unitValue h1 h2 h3 h4
    if isHighUnit high then
      match rest with
      | '\\' :: 'u' :: l1 :: l2 :: l3 :: l4 :: rest =>
        let low := unitValue l1 l2 l3 l4
        if isLowUnit low then (unescape rest).map (pairChar high low :: ·) else none
      | _ => none
    else if isLowUnit high then none
    else (unescape rest).map (Char.ofNat high :: ·)
  | '\\' :: c :: rest => (unescape rest).map (shortEscape c :: ·)
  | c :: rest => (unescape rest).map (c :: ·)

def stringValue? (raw : List Char) : Option String := (unescape raw).map String.ofList

/-! ## Numbers -/

/-- The double nearest to a power of ten; there is one up to the three hundred and eighth. -/
def powerOfTen? (n : Nat) : Option Binary64 := Binary64.ofNat? (Nat.pow 10 n)

/-- The greatest power of ten that is a double. -/
def greatestPower : Nat := 308

/-- A double divided by a power of ten, in steps no greater than the greatest power. -/
def scaleDown? (x : Binary64) (n : Nat) : Option Binary64 :=
  if n ≤ greatestPower then do x.over? (← powerOfTen? n)
  else if x.isZero then some x
  else do
    let step ← powerOfTen? greatestPower
    let y ← x.over? step
    scaleDown? y (n - greatestPower)
termination_by n
decreasing_by simp only [greatestPower] at *; omega

/-- The double `significand * 10 ^ exponent`, none when it is too great. -/
def scaled? (significand : Nat) (exponent : Int) : Option Binary64 := do
  let x ← Binary64.ofNat? significand
  if exponent < 0 then scaleDown? x exponent.natAbs
  else if exponent.toNat ≤ greatestPower then x.times? (← powerOfTen? exponent.toNat)
  else if x.isZero then some x
  else none

/-- The significand continued with as many digits as 64 bits hold, and the number of digits that
it could not take. -/
def takeDigits (significand : Nat) : List Char → Nat × Nat
  | [] => (significand, 0)
  | d :: ds =>
    let next := 10 * significand + Numeral.digitValue d
    if next ≤ Numeral.greatest64 then takeDigits next ds else (significand, ds.length + 1)

/-- The greatest exponent that is read as a number. -/
def greatestExponent : Nat := 0x7FFF_FFFF

/-- A double with the sign that its text shows. -/
def withSign (negative : Bool) (x : Binary64) : JsonNumber :=
  .real (if negative then x.negate else x)

/-- The value of a number that fits into an integer, or else the double of its digits. -/
def wholeValue? (negative : Bool) (n : Nat) : Option JsonNumber :=
  match Integer.ofInt? (if negative then -n else n) with
  | some i => if negative ∧ n = 0 then some (withSign true (.zero false)) else some (.integer i)
  | none => (Binary64.ofNat? n).map (withSign negative)

/-- The value of a number, none when it is too great. -/
def numberValue? (t : NumberText) : Option JsonNumber :=
  let (whole, beyond) := takeDigits 0 t.whole
  if t.fraction = none ∧ t.exponent = none ∧ beyond = 0 then wholeValue? t.negative whole
  else
    let fraction := t.fraction.getD []
    let (significand, unused) := takeDigits whole fraction
    let exponent : Int := beyond - (fraction.length - unused : Nat)
    match t.exponent with
    | none => (scaled? significand exponent).map (withSign t.negative)
    | some (negative, digits) =>
      let power := Numeral.value digits
      if power ≤ greatestExponent then
        (scaled? significand (if negative then exponent - power else exponent + power)).map
          (withSign t.negative)
      else if significand ≠ 0 ∧ ¬negative then none
      else some (withSign t.negative (.zero false))

/-! ## Whole values -/

mutual

/-- The value of an outline whose containers are nested at most `room` deep. -/
def Outline.value? (room : Nat) : Outline → Option Json
  | .word .null => some .null
  | .word .true => some (.bool true)
  | .word .false => some (.bool false)
  | .number n => (numberValue? n).map .number
  | .string raw => (stringValue? raw).map .string
  | .array items closed =>
    match room with
    | 0 => none
    | room + 1 => if closed then (itemValues? room items).map .array else none
  | .object members closed =>
    match room with
    | 0 => none
    | room + 1 => if closed then (memberValues? room members).map .object else none
  | .broken => none

def Outline.itemValues? (room : Nat) : List Outline → Option (List Json)
  | [] => some []
  | item :: items => do
    let j ← Outline.value? room item
    let js ← Outline.itemValues? room items
    return j :: js

def Outline.memberValues? (room : Nat) : List (List Char × Outline) → Option (List (String × Json))
  | [] => some []
  | (raw, value) :: members => do
    let name ← stringValue? raw
    let j ← Outline.value? room value
    let ms ← Outline.memberValues? room members
    return (name, j) :: ms

end

/-- How deep the containers of a text may be nested. -/
def greatestDepth : Nat := 127

def read? (cs : List Char) : Option Json :=
  match Outline.ofText cs with
  | (value, true) => value.value? greatestDepth
  | (_, false) => none

end HealthWatch.Json
