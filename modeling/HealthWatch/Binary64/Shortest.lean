import HealthWatch.Binary64
import HealthWatch.Text.Numeral
/-!
# Shortest decimal texts of double precision numbers

Every number is the nearest one to all the reals of an interval around it. Its shortest decimal is
the one of fewest digits in that interval, and of those the one closest to the number. Two layouts
write it: positional, and with an exponent for numbers that are very large or very small.
-/

namespace HealthWatch.Binary64

/-- The decimal `digits * 10 ^ exponent`. -/
structure Decimal where
  digits : Nat
  exponent : Int
  deriving DecidableEq, Repr

def Ratio.scaleTen (r : Ratio) (exponent : Int) : Ratio :=
  ⟨r.num * Nat.pow 10 exponent.toNat, r.den * Nat.pow 10 (-exponent).toNat⟩

/-- Whether a natural number is below, at or above a fraction. -/
def Ratio.compareNat (r : Ratio) (n : Nat) : Ordering := compare (n * r.den) r.num

/-- The power of ten of the leading digit of a positive fraction. -/
def Ratio.leadingDigit (r : Ratio) : Int :=
  if r.den ≤ r.num then ((Numeral.decimal (r.num / r.den)).length : Int) - 1
  else
    let places := (Numeral.decimal (r.den / r.num)).length
    if r.den ≤ r.num * Nat.pow 10 (places - 1) then 1 - (places : Int) else -(places : Int)

/-- The ends of the interval of reals that round to the number. The gap below a power of two is
half as wide as the gap above it. -/
def interval (x : Binary64) : Ratio × Ratio :=
  let narrow := x.significand = 1 <<< 52 ∧ x.exponent ≠ leastExponent
  let below := if narrow then 4 * x.significand - 1 else 4 * x.significand - 2
  ((Ratio.mk below 1).scale (x.exponent - 2),
    (Ratio.mk (4 * x.significand + 2) 1).scale (x.exponent - 2))

/-- Whether the decimal `n * 10 ^ unit` rounds to the number; the ends of the interval do exactly
when the significand is even. -/
def admits (x : Binary64) (n : Nat) (unit : Int) : Bool :=
  let (low, high) := x.interval
  let even := x.significand % 2 = 0
  let l := (low.scaleTen (-unit)).compareNat n
  let h := (high.scaleTen (-unit)).compareNat n
  (l = .gt || (even && l = .eq)) && (h = .lt || (even && h = .eq))

/-- The decimal of so many digits that rounds to the number and is closest to it, if any does. Of
two that are equally close the even one is taken. -/
def closest? (x : Binary64) (count : Nat) : Option Decimal :=
  let value := x.magnitude
  let unit := value.leadingDigit - (count - 1 : Nat)
  let scaled := value.scaleTen (-unit)
  let lower := scaled.num / scaled.den
  let twice := 2 * (scaled.num % scaled.den)
  let preferUpper := twice > scaled.den || (twice = scaled.den && lower % 2 = 1)
  match x.admits lower unit, x.admits (lower + 1) unit with
  | true, true => some ⟨if preferUpper then lower + 1 else lower, unit⟩
  | true, false => some ⟨lower, unit⟩
  | false, true => some ⟨lower + 1, unit⟩
  | false, false => none

/-- The shortest decimal of a number; seventeen digits always suffice. -/
def shortest (x : Binary64) : Decimal :=
  ((List.range 17).findSome? fun k => x.closest? (k + 1)).getD ⟨0, 0⟩

/-- The digits of a decimal without the zeros at their end, and how many of them stand before the
point. -/
def Decimal.layout (d : Decimal) : List Char × Int :=
  let ds := Numeral.decimal d.digits
  ((ds.reverse.dropWhile (· = '0')).reverse, ds.length + d.exponent)

/-- A sign, for a number below zero or negative zero. -/
def sign (x : Binary64) : List Char := if x.negative then ['-'] else []

/-- Digits with a point after the first `before` of them, zeros filling the gap; `whole` follows
the digits where they leave no decimal places. -/
def positional (ds : List Char) (before : Int) (whole : List Char) : List Char :=
  if before ≤ 0 then ['0', '.'] ++ List.replicate (-before).toNat '0' ++ ds
  else if ds.length ≤ before.toNat then
    ds ++ List.replicate (before.toNat - ds.length) '0' ++ whole
  else ds.take before.toNat ++ '.' :: ds.drop before.toNat

/-- The text without an exponent; a whole number has no point. -/
def plainText (x : Binary64) : List Char :=
  if x.isZero then x.sign ++ ['0']
  else
    let (ds, before) := x.shortest.layout
    x.sign ++ positional ds before []

/-- The text with an exponent for numbers from ten to the sixteen and for those below ten to the
minus five; a whole number has one decimal place. -/
def scientificText (x : Binary64) : List Char :=
  if x.isZero then x.sign ++ ['0', '.', '0']
  else
    let (ds, before) := x.shortest.layout
    if -5 < before ∧ before ≤ 16 then x.sign ++ positional ds before ['.', '0']
    else
      let mantissa := match ds with
        | [] => []
        | [d] => [d]
        | d :: rest => d :: '.' :: rest
      x.sign ++ mantissa ++ 'e' :: (Numeral.intText (before - 1)).toList

end HealthWatch.Binary64
