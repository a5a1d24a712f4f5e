import Mathlib.Data.Nat.Digits.Defs
import SqlTemplate.Number.Numeral
import SqlTemplate.Proofs.Number.Nearest

/-!
# Plain numerals

A plain numeral is a sign or none, digits, and a point with digits behind it or none. The digits may
be of any script, and of several in one numeral. What such a numeral is worth does not depend on how
it is read: as a whole number if it has no point (`integer?_text`), and as a decimal in any case
(`exists_decimal`).
-/

namespace SqlTemplate

/-! ## Digits -/

/-- A digit of any script. -/
structure Digit where
  char : Char
  isDigit : (Text.digitValue? char).isSome

namespace Digit

def value (d : Digit) : Nat :=
  (Text.digitValue? d.char).get d.isDigit

def text (digits : List Digit) : Text :=
  digits.map char

/-- What the digits are worth together, the last one being worth its value. -/
def number (digits : List Digit) : Nat :=
  Nat.ofDigits 10 (digits.map value).reverse

theorem digitValue?_char (d : Digit) : Text.digitValue? d.char = some d.value :=
  (Option.some_get _).symm

/-- There are digits in ASCII and above, and nowhere between. -/
theorem char_toNat (d : Digit) : 48 ≤ d.char.toNat ∧ d.char.toNat < 58 ∨ 1632 ≤ d.char.toNat := by
  have hzeros : ∀ first ∈ Text.digitZeros, first = 48 ∨ 1632 ≤ first := by decide
  have hdigit := d.isDigit
  rw [Text.digitValue?, Option.isSome_map, List.find?_isSome] at hdigit
  obtain ⟨first, hmem, hrange⟩ := hdigit
  rw [Bool.and_eq_true, decide_eq_true_eq, decide_eq_true_eq] at hrange
  have hfirst := hzeros first hmem
  omega

/-- A character that is no digit and stands below the scripts is none of theirs. -/
theorem char_ne (d : Digit) {c : Char} (hc : c.toNat < 48 ∨ 58 ≤ c.toNat ∧ c.toNat < 1632) :
    d.char ≠ c := by
  rintro rfl
  have hrange := d.char_toNat
  omega

/-- No digit has a small letter, so a numeral looks the same to a reader that ignores case. -/
theorem toLower_char (d : Digit) : d.char.toLower = d.char := by
  have hrange := d.char_toNat
  refine dif_neg ?_
  rintro ⟨hlower, hupper⟩
  have hlower' : 65 ≤ d.char.toNat := hlower
  have hupper' : d.char.toNat ≤ 90 := hupper
  omega

/-- Digits in front are worth ten times as much for each digit behind them. -/
theorem number_append (digits rest : List Digit) :
    number (digits ++ rest) = number digits * 10 ^ rest.length + number rest := by
  rw [number, List.map_append, List.reverse_append, Nat.ofDigits_append, List.length_reverse,
    List.length_map, number, number]
  ring

end Digit

namespace Numeral

open Digit (text value)

/-- The reader's sum of digits is what the digits are worth. -/
theorem ofDigits_values (digits : List Digit) :
    ofDigits (digits.map value) = Digit.number digits := by
  rw [Digit.number, Nat.ofDigits_eq_foldr, List.foldr_reverse, ofDigits]
  congr 1
  funext n d
  exact Nat.add_comm _ _

/-- What ends a run of digits: no digit, and nothing that joins two. -/
def EndsRun (rest : Text) : Prop :=
  ∀ c ∈ rest.head?, c ≠ '_' ∧ Text.digitValue? c = none

theorem digitRun_end {rest : Text} (hrest : EndsRun rest) : digitRun rest = ([], rest) := by
  cases rest with
  | nil => rfl
  | cons c rest => rw [digitRun, (hrest c rfl).2]

/-- Behind a digit a run goes on as it would start, unless an underscore stands there. -/
theorem digitTail_cons {c : Char} (hc : c ≠ '_') (rest : Text) :
    digitTail (c :: rest) = digitRun (c :: rest) := by
  rw [digitTail, digitRun]
  exact hc

theorem digitTail_end {rest : Text} (hrest : EndsRun rest) : digitTail rest = ([], rest) := by
  cases rest with
  | nil => rfl
  | cons c rest => rw [digitTail_cons (hrest c rfl).1, digitRun_end hrest]

/-- A run is read up to what ends it. -/
theorem digitTail_text {rest : Text} (hrest : EndsRun rest) (digits : List Digit) :
    digitTail (text digits ++ rest) = (digits.map value, rest) := by
  induction digits with
  | nil => exact digitTail_end hrest
  | cons d digits ih =>
    show digitTail (d.char :: (text digits ++ rest)) = _
    rw [digitTail_cons (d.char_ne (by decide)), digitRun, d.digitValue?_char]
    simp only
    rw [ih]
    rfl

theorem digitRun_text {rest : Text} (hrest : EndsRun rest) (digits : List Digit) :
    digitRun (text digits ++ rest) = (digits.map value, rest) := by
  cases digits with
  | nil => exact digitRun_end hrest
  | cons d digits =>
    rw [← digitTail_text hrest (d :: digits)]
    exact (digitTail_cons (d.char_ne (by decide)) _).symm

end Numeral

/-! ## Numerals -/

/-- How a numeral begins. -/
inductive Sign
  | absent
  | plus
  | minus
  deriving DecidableEq

namespace Sign

def text : Sign → Text
  | absent => []
  | plus => ['+']
  | minus => ['-']

def negative : Sign → Bool
  | minus => true
  | absent | plus => false

end Sign

/-- A sign or none, digits, and a point with digits behind it or none. -/
structure PlainNumeral where
  sign : Sign
  whole : List Digit
  whole_ne_nil : whole ≠ []
  /-- The digits behind the point, if there is a point. -/
  fraction : Option (List Digit)

namespace PlainNumeral

variable (n : PlainNumeral)

/-- The digits behind the point, none if there is no point. -/
def fractionDigits : List Digit :=
  n.fraction.getD []

/-- The numeral without its sign. -/
def body : Text :=
  Digit.text n.whole ++ n.fraction.elim [] fun digits => '.' :: Digit.text digits

def text : Text :=
  n.sign.text ++ n.body

/-- How many digits the numeral has, on both sides of the point. -/
def digitCount : Nat :=
  n.whole.length + n.fractionDigits.length

/-- What the numeral is worth: a digit behind the point is worth a tenth of what it were one place
before. -/
def value : ℚ :=
  (signed n.sign.negative 1 : Int) *
    (Digit.number n.whole + Digit.number n.fractionDigits / 10 ^ n.fractionDigits.length)

theorem exists_body : ∃ (d : Digit) (rest : Text), n.body = d.char :: rest := by
  obtain ⟨d, digits, hwhole⟩ := List.exists_cons_of_ne_nil n.whole_ne_nil
  rw [body, hwhole]
  exact ⟨d, _, rfl⟩

theorem readSign_text : Numeral.readSign n.text = (n.sign.negative, n.body) := by
  obtain ⟨d, rest, hbody⟩ := n.exists_body
  rw [text]
  cases n.sign with
  | plus | minus => rfl
  | absent =>
    show Numeral.readSign n.body = (false, n.body)
    rw [hbody]
    unfold Numeral.readSign
    split
    · rename_i heq
      exact absurd (List.cons.inj heq).1 (d.char_ne (by decide))
    · rename_i heq
      exact absurd (List.cons.inj heq).1 (d.char_ne (by decide))
    · rfl

/-- The digits in front of the point are read, and the point is left. -/
theorem digitRun_body : Numeral.digitRun n.body =
    (n.whole.map Digit.value, n.fraction.elim [] fun digits => '.' :: Digit.text digits) := by
  refine Numeral.digitRun_text ?_ n.whole
  cases n.fraction with
  | none => exact nofun
  | some digits =>
    rintro c ⟨⟩
    decide

/-- Without a point a numeral is read as a whole number, exactly. -/
theorem integer?_text (h : n.fraction = none) :
    ∃ m : Int, Numeral.integer? n.text = some (m, n.digitCount) ∧ (m : ℚ) = n.value := by
  have hdigits : n.fractionDigits = [] := by rw [fractionDigits, h]; rfl
  have hne : n.whole.map Digit.value ≠ [] := mt List.map_eq_nil_iff.mp n.whole_ne_nil
  refine ⟨signed n.sign.negative (Digit.number n.whole), ?_, ?_⟩
  · rw [Numeral.integer?, readSign_text]
    simp only
    rw [digitRun_body, h]
    show (if n.whole.map Digit.value = [] then _ else _) = _
    rw [if_neg hne, Numeral.ofDigits_values, List.length_map, digitCount, hdigits]
    rfl
  · rw [value, hdigits, cast_signed]
    simp [Digit.number]

/-- With a point a numeral is read as no whole number. -/
theorem integer?_text_of_point {digits : List Digit} (h : n.fraction = some digits) :
    Numeral.integer? n.text = none := by
  rw [Numeral.integer?, readSign_text]
  simp only
  rw [digitRun_body, h]
  rfl

/-- What begins with a digit is no word for an infinity or for what is no number. -/
theorem decimal?_text :
    Numeral.decimal? n.text = Numeral.unsigned? n.sign.negative n.body := by
  obtain ⟨d, rest, hbody⟩ := n.exists_body
  have hword : ∀ (c : Char) (word : Text), c.toNat < 48 ∨ 58 ≤ c.toNat ∧ c.toNat < 1632 →
      n.body.map Char.toLower ≠ c :: word := by
    intro c word hc heq
    rw [hbody, List.map_cons, d.toLower_char] at heq
    exact d.char_ne hc (List.cons.inj heq).1
  rw [Numeral.decimal?, readSign_text]
  simp only [hword 'i' _ (by decide), hword 'n' _ (by decide), decide_false, Bool.or_false,
    if_false, Bool.false_eq_true]

/-- A numeral is read as a decimal of its value. -/
theorem exists_decimal :
    ∃ d : Decimal, Numeral.decimal? n.text = some d ∧ d.toRat? = some n.value := by
  have hfraction : Numeral.fractionRun (n.fraction.elim [] fun digits => '.' :: Digit.text digits) =
      (n.fractionDigits.map Digit.value, []) := by
    rw [fractionDigits]
    cases n.fraction with
    | none => rfl
    | some digits =>
      have hrun := Numeral.digitRun_text (show Numeral.EndsRun [] from nofun) digits
      rwa [List.append_nil] at hrun
  have hne : n.whole.map Digit.value ++ n.fractionDigits.map Digit.value ≠ [] :=
    List.append_ne_nil_of_left_ne_nil (mt List.map_eq_nil_iff.mp n.whole_ne_nil) _
  refine ⟨.finite n.sign.negative (Digit.number (n.whole ++ n.fractionDigits))
    (0 - n.fractionDigits.length), ?_, ?_⟩
  · rw [decimal?_text, Numeral.unsigned?, digitRun_body]
    simp only
    rw [hfraction]
    simp only
    rw [if_neg hne, ← List.map_append, Numeral.ofDigits_values, List.length_map]
    rfl
  · rw [Decimal.toRat?, Option.some_inj, value, cast_signed, Digit.number_append, zero_sub, zpow_neg,
      zpow_natCast]
    push_cast
    field_simp

/-- A numeral holds a point exactly if it has digits behind one. -/
theorem mem_text_point : '.' ∈ n.text ↔ n.fraction.isSome := by
  have hdigits : ∀ digits, '.' ∉ Digit.text digits := by
    intro digits hmem
    obtain ⟨d, -, hd⟩ := List.mem_map.mp hmem
    exact d.char_ne (by decide) hd
  have hsign : '.' ∉ n.sign.text := by
    cases n.sign <;> decide
  rw [text, body, List.mem_append, List.mem_append, or_iff_right hsign, or_iff_right (hdigits _)]
  cases n.fraction with
  | none => simp
  | some digits => simp

end PlainNumeral

end SqlTemplate
