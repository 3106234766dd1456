/-!
# Double precision numbers

A finite number of the binary64 format: a sign, a significand of at most 53 bits and the power of
two that scales it. Each operation takes the exact rational result and rounds it once, to the
nearest number, a half to the even significand; a result beyond the greatest number is none.
-/

namespace HealthWatch

/-- The least power of two that scales a significand. -/
def Binary64.leastExponent : Int := -1074

/-- The greatest power of two that scales a significand. -/
def Binary64.greatestExponent : Int := 971

/-- Whether a significand and an exponent are the one way to write their product: 53 bits, or fewer
with the least exponent. -/
def Binary64.IsNormal (significand : Nat) (exponent : Int) : Prop :=
  significand < 1 <<< 53 ∧ leastExponent ≤ exponent ∧ exponent ≤ greatestExponent ∧
    (1 <<< 52 ≤ significand ∨ exponent = leastExponent)

instance (m : Nat) (q : Int) : Decidable (Binary64.IsNormal m q) :=
  inferInstanceAs (Decidable (_ ∧ _ ∧ _ ∧ _))

/-- The number `significand * 2 ^ exponent`, negated if it is negative; zero has two signs. -/
structure Binary64 where
  negative : Bool
  significand : Nat
  exponent : Int
  isNormal : Binary64.IsNormal significand exponent
  deriving DecidableEq

namespace Binary64

/-- Zero of either sign. -/
def zero (negative : Bool) : Binary64 := ⟨negative, 0, leastExponent, by decide⟩

instance : Inhabited Binary64 := ⟨zero false⟩

/-- A fraction of natural numbers. -/
structure Ratio where
  num : Nat
  den : Nat
  deriving DecidableEq

def Ratio.scale (r : Ratio) (exponent : Int) : Ratio :=
  ⟨r.num * Nat.pow 2 exponent.toNat, r.den * Nat.pow 2 (-exponent).toNat⟩

/-- The nearest natural number; a half goes to the even neighbour. -/
def Ratio.roundEven (r : Ratio) : Nat :=
  let whole := r.num / r.den
  let twice := 2 * (r.num % r.den)
  if twice > r.den ∨ (twice = r.den ∧ whole % 2 = 1) then whole + 1 else whole

/-- The exponent of a number's last bit, for a positive fraction. -/
def Ratio.lastBit (r : Ratio) : Int :=
  let guess : Int := (r.num.log2 : Int) - r.den.log2
  let scaled := r.scale (-guess)
  let leading := if scaled.num < scaled.den then guess - 1 else guess
  max (leading - 52) leastExponent

/-- The number nearest to a fraction, none when that is beyond the greatest. -/
def nearest? (negative : Bool) (r : Ratio) : Option Binary64 :=
  let unit := r.lastBit
  let m := (r.scale (-unit)).roundEven
  if r.num = 0 then some (zero negative)
  else if h : IsNormal m unit then some ⟨negative, m, unit, h⟩
  else if h : m = 1 <<< 53 ∧ IsNormal (1 <<< 52) (unit + 1) then
    some ⟨negative, 1 <<< 52, unit + 1, h.2⟩
  else none

/-- The exact value, the sign aside. -/
def magnitude (x : Binary64) : Ratio := (Ratio.mk x.significand 1).scale x.exponent

/-- Whether the number is zero, of either sign. -/
def isZero (x : Binary64) : Bool := x.significand = 0

/-- The number of the other sign. -/
def negate (x : Binary64) : Binary64 := { x with negative := !x.negative }

/-- The number nearest to a natural number. -/
def ofNat? (n : Nat) : Option Binary64 := nearest? false ⟨n, 1⟩

def times? (x y : Binary64) : Option Binary64 :=
  let a := x.magnitude
  let b := y.magnitude
  nearest? (x.negative != y.negative) ⟨a.num * b.num, a.den * b.den⟩

/-- The quotient by a number other than zero. -/
def over? (x y : Binary64) : Option Binary64 :=
  let a := x.magnitude
  let b := y.magnitude
  nearest? (x.negative != y.negative) ⟨a.num * b.den, a.den * b.num⟩

/-- The sum of two numbers that are not negative. -/
def plus? (x y : Binary64) : Option Binary64 :=
  let a := x.magnitude
  let b := y.magnitude
  nearest? false ⟨a.num * b.den + b.num * a.den, a.den * b.den⟩

end Binary64

end HealthWatch
