import SqlTemplate.Number.Decimal

/-!
# Binary floating point

The numbers of the 64-bit binary format: a sign and a significand of at most 53 bits times a power
of two from -1074 to 971, two infinities and one NaN. A number other than zero is kept with the
longest significand it can have, which makes its representation unique; zero keeps its sign.

Every conversion into the format rounds the exact value to the nearest number, a tie to the one
whose significand is even, and a value beyond the largest number to an infinity.
-/

namespace SqlTemplate

/-- Whether a finite number is kept with this significand and this power of two: the significand
has all its bits, unless the power of two is the least there is. -/
def IsCanonical (significand : Nat) (exponent : Int) : Prop :=
  significand < Nat.pow 2 53 ∧ -1074 ≤ exponent ∧ exponent ≤ 971 ∧
    (Nat.pow 2 52 ≤ significand ∨ exponent = -1074)

instance (significand : Nat) (exponent : Int) : Decidable (IsCanonical significand exponent) :=
  inferInstanceAs (Decidable (_ ∧ _))

/-- A number of the 64-bit binary format. -/
inductive Binary64
  | finite (negative : Bool) (significand : Nat) (exponent : Int)
    (canonical : IsCanonical significand exponent)
  | infinite (negative : Bool)
  | nan
  deriving DecidableEq, Repr

/-- The whole number nearest to `num / den`, of two equally near the even one. -/
def roundHalfEven (num den : Nat) : Nat :=
  let quotient := num / den
  let rest := num % den
  if 2 * rest < den then quotient
  else if den < 2 * rest then quotient + 1
  else quotient + quotient % 2

/-- Compares `num / den` with `base ^ e`: whether it lies below. -/
def belowPower (base num den : Nat) (e : Int) : Bool :=
  num * power base (-e) < den * power base e

/-- The largest `e` for which `2 ^ e` is at most `num / den`. -/
def floorLog2 (num den : Nat) : Int :=
  let estimate : Int := (num.log2 : Int) - den.log2
  if belowPower 2 num den estimate then estimate - 1 else estimate

namespace Binary64

/-- The least power of two that a significand is multiplied by. -/
def minExponent : Int := -1074

def precision : Nat := 53

def zero (negative : Bool) : Binary64 :=
  finite negative 0 minExponent (by decide)

/-- The number with these parts. Parts that are beyond the largest number make an infinity. -/
def ofParts (negative : Bool) (significand : Nat) (exponent : Int) : Binary64 :=
  if canonical : IsCanonical significand exponent then
    finite negative significand exponent canonical
  else infinite negative

def ofQuotient (negative : Bool) (num den : Nat) : Binary64 :=
  if num = 0 then zero negative
  else
    let exponent := max (floorLog2 num den - (precision - 1 : Nat)) minExponent
    let significand := roundHalfEven (num * power 2 (-exponent)) (den * power 2 exponent)
    -- rounding up can carry into one more bit, and then all bits but the first are zero
    let (significand, exponent) :=
      if significand = power 2 precision then (power 2 (precision - 1), exponent + 1)
      else (significand, exponent)
    ofParts negative significand exponent

def ofRat (q : Rat) : Binary64 :=
  ofQuotient (q.num < 0) q.num.natAbs q.den

/-- The number nearest to a rational, unless that is an infinity. -/
def ofRat? (q : Rat) : Option Binary64 :=
  match ofRat q with
  | infinite _ => none
  | nearest => some nearest

/-- The number nearest to a decimal. One with more than 310 digits before the point is beyond every
finite number and one that starts more than 330 places behind it is nearest to zero, so that no
power of ten is computed for them. -/
def ofDecimal : Decimal → Binary64
  | .finite negative coefficient exponent =>
    let size := digitCount coefficient + exponent
    if coefficient = 0 || size < -330 then zero negative
    else if 310 < size then infinite negative
    else
      ofQuotient negative (coefficient * power 10 exponent) (power 10 (-exponent))
  | .infinite negative => infinite negative
  | .nan .. => nan

def toRat? : Binary64 → Option Rat
  | finite negative significand exponent _ =>
    some (signed negative significand * (2 : Rat) ^ exponent)
  | _ => none

/-- The whole part of a finite number, its fraction cut off. -/
def truncate? : Binary64 → Option Int
  | finite negative significand exponent _ =>
    some (signed negative (significand * power 2 exponent / power 2 (-exponent)))
  | _ => none

/-- The whole number of 64 bits that the number is, if it is one. -/
def toInt64? (x : Binary64) : Option Int :=
  x.truncate?.filter fun n => x.toRat? = some (n : Rat) && isInt64 n

def isFinite : Binary64 → Bool
  | finite .. => true
  | _ => false

/-- Whether the number is other than zero; infinities and NaN are. -/
def isNonzero : Binary64 → Bool
  | finite _ significand _ _ => significand != 0
  | _ => true

end Binary64

end SqlTemplate
