import SqlTemplate.Number.Binary64

/-!
# Shortest decimal form

A number of the binary format is written with the fewest significant digits from which it can be
read back, and among the decimals of that length with the one nearest to it. Both are decided by
exact arithmetic: on the grid of decimals with `n` digits only the two neighbours of the number can
be nearest to it, and each is read back to see.

The digits are laid out with a point while the number is neither large nor small, and with a power
of ten otherwise.
-/

namespace SqlTemplate.Binary64

/-- The `p` for which `num / den` is at least `10 ^ (p - 1)` and less than `10 ^ p`. -/
def decimalMagnitude (num den : Nat) : Int :=
  let estimate : Int := (digitCount num : Int) - digitCount den
  if belowPower 10 num den estimate then estimate else estimate + 1

/-- Of the two multiples of `10 ^ scale` next to `significand * 2 ^ exponent`, the nearest that
reads back as that number. The farther one can read back where the nearest does not, because the
numbers of the format stand closer below a power of two than above it. -/
def nearestOnGrid? (significand : Nat) (exponent scale : Int) : Option Decimal :=
  let num := significand * power 2 exponent * power 10 (-scale)
  let den := power 2 (-exponent) * power 10 scale
  let nearest := roundHalfEven num den
  let farther := if nearest = num / den then nearest + 1 else num / den
  [nearest, farther].map (Decimal.finite false · scale) |>.find?
    (ofDecimal · == ofParts false significand exponent)

/-- The most digits that a number needs in order to be told from its neighbours. -/
def maxDigits : Nat := 17

def exactDecimal (significand : Nat) (exponent : Int) : Decimal :=
  .finite false (significand * power 2 exponent * power 5 (-exponent)) (min exponent 0)

/-- The shortest decimal that reads back as `significand * 2 ^ exponent`. -/
def shortest (significand : Nat) (exponent : Int) : Decimal :=
  let magnitude := decimalMagnitude (significand * power 2 exponent) (power 2 (-exponent))
  let onGrid (n : Nat) := nearestOnGrid? significand exponent (magnitude - n)
  ((List.range' 1 maxDigits).findSome? onGrid).getD (exactDecimal significand exponent)

/-- The coefficient without the zeros at its end, and how many they were. -/
def trimZeros (coefficient : Nat) : Nat × Nat :=
  if h : 0 < coefficient ∧ coefficient % 10 = 0 then
    let rest := trimZeros (coefficient / 10)
    (rest.1, rest.2 + 1)
  else (coefficient, 0)
termination_by coefficient

/-- Digits with a point after the first `point` of them. Zeros fill the places between the digits
and the point, and a digit stands on each side of it. -/
def positional (digits : Text) (point : Int) : Text :=
  if point ≤ 0 then ['0', '.'] ++ List.replicate (-point).toNat '0' ++ digits
  else if digits.length ≤ point.toNat then
    digits ++ List.replicate (point.toNat - digits.length) '0' ++ ['.', '0']
  else digits.take point.toNat ++ '.' :: digits.drop point.toNat

/-- Digits with a point after the first, if there are more, and a power of ten of at least two
digits with its sign. -/
def scientific (digits : Text) (point : Int) : Text :=
  let power := point - 1
  let powerDigits := Text.ofNat power.natAbs
  digits.take 1 ++ (if digits.length ≤ 1 then [] else '.' :: digits.drop 1) ++
    'e' :: (if power < 0 then '-' else '+') ::
    (List.replicate (2 - powerDigits.length) '0' ++ powerDigits)

/-- The text of a float as a decimal: with a point where its first digit stands at most four places
behind and sixteen before the point, and with a power of ten elsewhere. -/
def layout : Decimal → Text
  | .finite negative coefficient exponent =>
    let (trimmed, zeros) := trimZeros coefficient
    let digits := Text.ofNat trimmed
    let point := if coefficient = 0 then 1 else digits.length + zeros + exponent
    (if negative then ['-'] else []) ++
      (if -4 < point ∧ point ≤ 16 then positional digits point else scientific digits point)
  | .infinite negative => (if negative then ['-'] else []) ++ ['i', 'n', 'f']
  | .nan .. => ['n', 'a', 'n']

def toText : Binary64 → Text
  | finite negative significand exponent _ =>
    match shortest significand exponent with
    | .finite _ coefficient scale => layout (.finite negative coefficient scale)
    | other => layout other
  | infinite negative => layout (.infinite negative)
  | nan => layout (.nan false false)

end SqlTemplate.Binary64
