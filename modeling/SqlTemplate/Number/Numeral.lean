import SqlTemplate.Number.Decimal
import SqlTemplate.Text.DecimalDigit

/-!
# Numerals

How numbers are read from text. A run of digits may be in any script that has decimal digits, and
single underscores may stand between two digits. A whole number is an optional sign and one run; a
decimal numeral has an optional sign, digits before or after a point or both, and an optional power
of ten. `inf`, `infinity` and `nan` are numerals in any case. Nothing may stand before or after.
-/

namespace SqlTemplate.Numeral

mutual

/-- The digits at the head of a text, and what follows them. -/
def digitRun : Text → List Nat × Text
  | [] => ([], [])
  | c :: rest =>
    match Text.digitValue? c with
    | some d =>
      let tail := digitTail rest
      (d :: tail.1, tail.2)
    | none => ([], c :: rest)

/-- The digits that follow a digit, each after one underscore or none, and what follows them. -/
def digitTail : Text → List Nat × Text
  | [] => ([], [])
  | '_' :: rest =>
    match digitRun rest with
    -- no digit follows, so the underscore is not part of the run
    | ([], _) => ([], '_' :: rest)
    | run => run
  | c :: rest =>
    match Text.digitValue? c with
    | some d =>
      let tail := digitTail rest
      (d :: tail.1, tail.2)
    | none => ([], c :: rest)

end

def ofDigits (digits : List Nat) : Nat :=
  digits.foldl (fun n d => 10 * n + d) 0

/-- Whether the number is negative, and the text after its sign. -/
def readSign : Text → Bool × Text
  | '-' :: rest => (true, rest)
  | '+' :: rest => (false, rest)
  | s => (false, s)

/-- A whole number with the count of digits it is written with. -/
def integer? (s : Text) : Option (Int × Nat) :=
  let (negative, body) := readSign s
  match digitRun body with
  | (digits, []) =>
    if digits = [] then none else some (signed negative (ofDigits digits), digits.length)
  | _ => none

/-- A power of ten at the end of a numeral; the absence of one is the power 0. -/
def exponent? : Text → Option Int
  | [] => some 0
  | c :: rest =>
    if c = 'e' || c = 'E' then (integer? rest).map (·.1) else none

/-- The digits after a point, if there is a point, and what follows. -/
def fractionRun : Text → List Nat × Text
  | '.' :: rest => digitRun rest
  | s => ([], s)

def unsigned? (negative : Bool) (s : Text) : Option Decimal :=
  let (whole, rest) := digitRun s
  let (fraction, rest) := fractionRun rest
  if whole ++ fraction = [] then none
  else (exponent? rest).map fun exponent =>
    .finite negative (ofDigits (whole ++ fraction)) (exponent - fraction.length)

def decimal? (s : Text) : Option Decimal :=
  let (negative, body) := readSign s
  let word := body.map Char.toLower
  if word = ['i', 'n', 'f'] || word = ['i', 'n', 'f', 'i', 'n', 'i', 't', 'y'] then
    some (.infinite negative)
  else if word = ['n', 'a', 'n'] then some (.nan negative false)
  else unsigned? negative body

end SqlTemplate.Numeral
