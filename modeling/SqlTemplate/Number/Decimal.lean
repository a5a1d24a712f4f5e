import SqlTemplate.Text

/-!
# Decimal numbers

A decimal number is kept as it is written: a sign, the digits as one natural number, and a power of
ten. `1.50` and `1.5` are therefore two decimals with one value, and `-0` is told from `0`.

The module also writes whole numbers in decimal digits, which text output is made of.
-/

namespace SqlTemplate

/-- The natural number in decimal digits, without leading zeros. -/
def Text.ofNat (n : Nat) : Text :=
  Nat.toDigits 10 n

/-- The whole number in decimal digits, with a minus where it is negative. -/
def Text.ofInt : Int → Text
  | .ofNat n => Text.ofNat n
  | .negSucc n => '-' :: Text.ofNat (n + 1)

def digitCount (n : Nat) : Nat :=
  (Nat.toDigits 10 n).length

/-- The power `base ^ e`, and 1 where `e` is negative. The quotient of `power base e` by
`power base (-e)` is therefore `base ^ e` for every `e`. -/
def power (base : Nat) (e : Int) : Nat :=
  Nat.pow base e.toNat

/-- The most digits that a whole number is read from and written in. -/
def digitLimit : Nat := 4300

/-- Whether a whole number has few enough digits to be written. -/
def isWritable (n : Int) : Bool :=
  n.natAbs < power 10 digitLimit

/-- Whether a whole number fits in 64 bits, one of them for the sign. -/
def isInt64 (n : Int) : Bool :=
  -(power 2 63 : Int) ≤ n && n < (power 2 63 : Int)

/-- A decimal number. A NaN may be signalling, which forbids most uses. -/
inductive Decimal
  | finite (negative : Bool) (coefficient : Nat) (exponent : Int)
  | infinite (negative : Bool)
  | nan (negative signaling : Bool)
  deriving DecidableEq, Repr

def signed (negative : Bool) (n : Nat) : Int :=
  if negative then -n else n

namespace Decimal

def toRat? : Decimal → Option Rat
  | finite negative coefficient exponent =>
    some (signed negative coefficient * (10 : Rat) ^ exponent)
  | _ => none

/-- The whole part of a finite decimal, its fraction cut off. A decimal below one has none, so that
no power of ten is computed for it. -/
def truncate? : Decimal → Option Int
  | finite negative coefficient exponent =>
    if digitCount coefficient + exponent ≤ 0 then some 0
    else some (signed negative (coefficient * power 10 exponent / power 10 (-exponent)))
  | _ => none

/-- Whether the decimal is other than zero; infinities and NaNs are. -/
def isNonzero : Decimal → Bool
  | finite _ coefficient _ => coefficient != 0
  | _ => true

/-- Digits with a point after the first `point` of them, none at the end. -/
def positional (digits : Text) (point : Int) : Text :=
  if point ≤ 0 then ['0', '.'] ++ List.replicate (-point).toNat '0' ++ digits
  else if digits.length ≤ point.toNat then digits
  else digits.take point.toNat ++ '.' :: digits.drop point.toNat

/-- Digits with a point after the first, if there are more, and a power of ten with its sign. -/
def scientific (digits : Text) (point : Int) : Text :=
  digits.take 1 ++ (if digits.length ≤ 1 then [] else '.' :: digits.drop 1) ++
    'E' :: (if point ≤ 0 then '-' else '+') :: Text.ofNat (point - 1).natAbs

/-- The text that keeps both the digits and the power of ten: with a point where no zero has to be
added behind the digits and the first digit stands at most six places behind the point, and with a
power of ten elsewhere. -/
def toText : Decimal → Text
  | finite negative coefficient exponent =>
    let digits := Text.ofNat coefficient
    let point := digits.length + exponent
    (if negative then ['-'] else []) ++
      (if exponent ≤ 0 ∧ -6 < point then positional digits point else scientific digits point)
  | infinite negative => (if negative then ['-'] else []) ++ "Infinity".toList
  | nan negative signaling =>
    (if negative then ['-'] else []) ++ (if signaling then "sNaN".toList else "NaN".toList)

end Decimal

end SqlTemplate
