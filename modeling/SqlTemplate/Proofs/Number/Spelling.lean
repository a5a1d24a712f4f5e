import Mathlib.Algebra.Order.Field.Power
import Mathlib.Data.Rat.Cast.Order
import Mathlib.Tactic.FieldSimp
import Mathlib.Tactic.Ring
import SqlTemplate.Number.Shortest

/-!
# How numbers are spelled

A *spelling* is a numeral taken apart: a sign, the digits before and behind the point, and a power
of ten with its sign. Whole numbers and floats are written as the text of a spelling:

* `text_ofInt`: a whole number is written as the text of its spelling, which has neither a point nor
  a power of ten.
* `text_ofLayout`, `decimal_ofLayout`: so is a decimal that is laid out, and its spelling writes a
  decimal of the same sign and value.
-/

namespace SqlTemplate

/-- A numeral, part by part. -/
structure Spelling where
  negative : Bool
  /-- The digits before the point. -/
  whole : Text
  /-- The digits behind the point. Where there are none there is no point either. -/
  fraction : Text := []
  /-- The power of ten, if there is one: whether it is negative, and its digits. -/
  power : Option (Bool × Text) := none
  deriving DecidableEq, Repr

/-- Whether a text is made of decimal digits, at least one of them. -/
def IsDigits (s : Text) : Prop :=
  s ≠ [] ∧ ∀ c ∈ s, c.isDigit

namespace Spelling

/-- The point and the digits behind it, if there are any. -/
def fractionText (fraction : Text) : Text :=
  if fraction = [] then [] else '.' :: fraction

/-- The power of ten as it is written: always with a sign. -/
def powerText : Option (Bool × Text) → Text
  | none => []
  | some (negative, digits) => 'e' :: (if negative then '-' else '+') :: digits

def text (n : Spelling) : Text :=
  (if n.negative then ['-'] else []) ++ n.whole ++ fractionText n.fraction ++ powerText n.power

/-- The power of ten as a number, and no power where none is written. -/
def exponent (n : Spelling) : Int :=
  match n.power with
  | none => 0
  | some (negative, digits) => signed negative (Nat.ofDigitChars 10 digits 0)

/-- The decimal that the numeral writes. Its coefficient is all digits in a row, so the exponent is
lower by one for each digit behind the point. -/
def decimal (n : Spelling) : Decimal :=
  .finite n.negative (Nat.ofDigitChars 10 (n.whole ++ n.fraction) 0)
    (n.exponent - n.fraction.length)

/-- Whether the numeral writes a whole number as such, with neither a point nor a power of ten. -/
def isWhole (n : Spelling) : Bool :=
  n.fraction = [] && n.power = none

/-- Whether each part of the numeral is made of digits. -/
structure WellFormed (n : Spelling) : Prop where
  whole : IsDigits n.whole
  fraction : n.fraction = [] ∨ IsDigits n.fraction
  power : ∀ p, n.power = some p → IsDigits p.2

end Spelling

/-! ## Digits -/

theorem isDigit_iff {c : Char} : c.isDigit ↔ 48 ≤ c.toNat ∧ c.toNat ≤ 57 :=
  Char.isDigit_iff_toNat

theorem isDigits_ofNat (n : Nat) : IsDigits (Text.ofNat n) :=
  ⟨Nat.toDigits_ne_nil, fun _ hc => Nat.isDigit_of_mem_toDigits (by decide) (by decide) hc⟩

theorem isDigit_of_mem_replicate_zero {n : Nat} {c : Char} (h : c ∈ List.replicate n '0') :
    c.isDigit := by
  rw [List.eq_of_mem_replicate h]
  decide

theorem IsDigits.append_zeros {s : Text} (h : IsDigits s) (n : Nat) :
    IsDigits (s ++ List.replicate n '0') := by
  refine ⟨by simp [h.1], fun c hc => ?_⟩
  rcases List.mem_append.mp hc with hc | hc
  · exact h.2 c hc
  · exact isDigit_of_mem_replicate_zero hc

theorem IsDigits.zeros_append {s : Text} (h : IsDigits s) (n : Nat) :
    IsDigits (List.replicate n '0' ++ s) := by
  refine ⟨by simp [h.1], fun c hc => ?_⟩
  rcases List.mem_append.mp hc with hc | hc
  · exact isDigit_of_mem_replicate_zero hc
  · exact h.2 c hc

theorem IsDigits.take {s : Text} (h : IsDigits s) {n : Nat} (hn : 0 < n) : IsDigits (s.take n) := by
  refine ⟨?_, fun c hc => h.2 c (List.mem_of_mem_take hc)⟩
  simpa [Nat.pos_iff_ne_zero.mp hn] using h.1

/-- What is left of digits may be nothing at all. -/
theorem IsDigits.drop {s : Text} (h : IsDigits s) (n : Nat) :
    s.drop n = [] ∨ IsDigits (s.drop n) :=
  (Classical.em (s.drop n = [])).imp_right fun hne =>
    ⟨hne, fun c hc => h.2 c (List.mem_of_mem_drop hc)⟩

theorem ofDigitChars_ofNat (n : Nat) : Nat.ofDigitChars 10 (Text.ofNat n) 0 = n :=
  Nat.ofDigitChars_ten_toDigits

theorem signed_natAbs (n : Int) : signed (n < 0) n.natAbs = n := by
  unfold signed
  split <;> rename_i hneg <;> simp only [decide_eq_true_eq] at hneg <;> omega

theorem ofDigitChars_zeros_append (n : Nat) (s : Text) :
    Nat.ofDigitChars 10 (List.replicate n '0' ++ s) 0 = Nat.ofDigitChars 10 s 0 := by
  rw [Nat.ofDigitChars_append, Nat.ofDigitChars_replicate_zero, Nat.mul_zero]

theorem ofDigitChars_append_zeros (n : Nat) (s : Text) :
    Nat.ofDigitChars 10 (s ++ List.replicate n '0') 0 = Nat.ofDigitChars 10 s 0 * 10 ^ n := by
  rw [Nat.ofDigitChars_append, Nat.ofDigitChars_replicate_zero, Nat.mul_comm]

namespace Spelling

/-! ## Whole numbers -/

def ofInt (n : Int) : Spelling where
  negative := n < 0
  whole := Text.ofNat n.natAbs

/-- A whole number is written as the text of its spelling. -/
theorem text_ofInt (n : Int) : (ofInt n).text = Text.ofInt n := by
  cases n with
  | ofNat n => simp [text, fractionText, powerText, ofInt, Text.ofInt]
  | negSucc n =>
    simp [text, fractionText, powerText, ofInt, Text.ofInt, Int.negSucc_lt_zero,
      Int.natAbs_negSucc]

theorem wellFormed_ofInt (n : Int) : (ofInt n).WellFormed :=
  ⟨isDigits_ofNat _, .inl rfl, by simp [ofInt]⟩

/-! ## Floats -/

/-- Digits with the point at its place among them. Where it lies outside them, zeros fill the gap,
and a zero stands for each side that has no digits. -/
def positional (negative : Bool) (digits : Text) (point : Int) : Spelling :=
  if point ≤ 0 then ⟨negative, ['0'], List.replicate (-point).toNat '0' ++ digits, none⟩
  else if digits.length ≤ point.toNat then
    ⟨negative, digits ++ List.replicate (point.toNat - digits.length) '0', ['0'], none⟩
  else ⟨negative, digits.take point.toNat, digits.drop point.toNat, none⟩

/-- Digits with the point behind the first, and the power of ten that makes up for it in two digits
or more. -/
def scientific (negative : Bool) (digits : Text) (point : Int) : Spelling :=
  let powerDigits := Text.ofNat (point - 1).natAbs
  ⟨negative, digits.take 1, digits.drop 1,
    some (point - 1 < 0, List.replicate (2 - powerDigits.length) '0' ++ powerDigits)⟩

variable {negative : Bool} {digits : Text} {point : Int}

/-- Floats of moderate size are written as the text of a positional spelling. -/
theorem text_positional (h : IsDigits digits) :
    (positional negative digits point).text =
      (if negative then ['-'] else []) ++ Binary64.positional digits point := by
  unfold positional Binary64.positional
  split
  · simp [text, fractionText, powerText, h.1]
  · split
    · simp [text, fractionText, powerText]
    · have hdrop : digits.drop point.toNat ≠ [] := by
        simp only [ne_eq, List.drop_eq_nil_iff]
        omega
      simp [text, fractionText, powerText, hdrop]

/-- All other floats are written as the text of a scientific spelling. -/
theorem text_scientific :
    (scientific negative digits point).text =
      (if negative then ['-'] else []) ++ Binary64.scientific digits point := by
  -- a single digit has no point behind it
  by_cases hshort : digits.length ≤ 1
  · have hdrop : digits.drop 1 = [] := List.drop_eq_nil_iff.mpr hshort
    simp [text, fractionText, powerText, scientific, Binary64.scientific, hdrop, hshort]
  · have hdrop : digits.drop 1 ≠ [] := fun h => hshort (List.drop_eq_nil_iff.mp h)
    simp [-List.drop_one, text, fractionText, powerText, scientific, Binary64.scientific, hdrop,
      hshort]

theorem wellFormed_positional (h : IsDigits digits) :
    (positional negative digits point).WellFormed := by
  unfold positional
  split
  · exact ⟨by simp [IsDigits], .inr (h.zeros_append _), by simp⟩
  · split
    · exact ⟨h.append_zeros _, .inr (by simp [IsDigits]), by simp⟩
    · exact ⟨h.take (by omega), h.drop _, by simp⟩

theorem wellFormed_scientific (h : IsDigits digits) :
    (scientific negative digits point).WellFormed := by
  refine ⟨h.take Nat.one_pos, h.drop 1, ?_⟩
  rintro _ ⟨rfl⟩
  exact (isDigits_ofNat _).zeros_append _

/-- A positional spelling has digits behind its point, a zero at least. -/
theorem isWhole_positional (h : IsDigits digits) :
    (positional negative digits point).isWhole = false := by
  unfold positional
  split
  · simp [isWhole, h.1]
  · split
    · simp [isWhole]
    · have hdrop : digits.drop point.toNat ≠ [] := by
        simp only [ne_eq, List.drop_eq_nil_iff]
        omega
      simp [isWhole, hdrop]

/-- A positional spelling writes its digits times a power of ten, with one zero more where there
are none behind the point. -/
theorem decimal_positional :
    ∃ k : Nat, (positional negative digits point).decimal =
      .finite negative (Nat.ofDigitChars 10 digits 0 * 10 ^ k) (point - digits.length - k) := by
  unfold positional
  split
  · refine ⟨0, ?_⟩
    have hzeros : Nat.ofDigitChars 10 ('0' :: (List.replicate (-point).toNat '0' ++ digits)) 0 =
        Nat.ofDigitChars 10 digits 0 := ofDigitChars_zeros_append ((-point).toNat + 1) digits
    simp only [decimal, exponent, List.cons_append, List.nil_append, hzeros, List.length_append,
      List.length_replicate, Decimal.finite.injEq, Nat.pow_zero, Nat.mul_one, true_and]
    omega
  · split
    · refine ⟨point.toNat - digits.length + 1, ?_⟩
      have hzeros := ofDigitChars_append_zeros (point.toNat - digits.length + 1) digits
      simp only [List.replicate_succ', ← List.append_assoc] at hzeros
      simp only [decimal, exponent, hzeros, List.length_singleton, Decimal.finite.injEq, true_and]
      omega
    · refine ⟨0, ?_⟩
      simp only [decimal, exponent, List.take_append_drop, List.length_drop, Decimal.finite.injEq,
        Nat.pow_zero, Nat.mul_one, true_and]
      omega

/-- A scientific spelling writes its digits with the point where it was. -/
theorem decimal_scientific (h : IsDigits digits) :
    (scientific negative digits point).decimal =
      .finite negative (Nat.ofDigitChars 10 digits 0) (point - digits.length) := by
  -- of the digits all but the first stand behind the point
  have hlength : 0 < digits.length := List.length_pos_iff.mpr h.1
  simp only [decimal, exponent, scientific, List.take_append_drop, ofDigitChars_zeros_append,
    ofDigitChars_ofNat, signed_natAbs, List.length_drop, Decimal.finite.injEq, true_and]
  omega

/-! ## Layout -/

/-- A coefficient is what is left of it times ten for each zero that was taken away. -/
theorem trimZeros_eq (coefficient : Nat) :
    (Binary64.trimZeros coefficient).1 * 10 ^ (Binary64.trimZeros coefficient).2 = coefficient := by
  fun_induction Binary64.trimZeros coefficient with
  | case1 coefficient h rest ih =>
    rw [Nat.pow_succ, ← Nat.mul_assoc, ih]
    omega
  | case2 coefficient h => simp

/-- Zeros can be moved from a coefficient to its power of ten. -/
theorem mul_pow_shift (c k : Nat) (e : Int) :
    ((c * 10 ^ k : Nat) : ℚ) * 10 ^ (e - k) = c * 10 ^ e := by
  have h10 : (10 : ℚ) ≠ 0 := by norm_num
  push_cast
  rw [mul_assoc, ← zpow_natCast, ← zpow_add₀ h10]
  congr 2
  omega

/-- Digits with the point at its place, in the form that the place calls for. -/
def placed (negative : Bool) (digits : Text) (point : Int) : Spelling :=
  if -4 < point ∧ point ≤ 16 then positional negative digits point
  else scientific negative digits point

theorem wellFormed_placed (h : IsDigits digits) : (placed negative digits point).WellFormed := by
  unfold placed
  split
  · exact wellFormed_positional h
  · exact wellFormed_scientific h

theorem isWhole_placed (h : IsDigits digits) : (placed negative digits point).isWhole = false := by
  unfold placed
  split
  · exact isWhole_positional h
  · simp [scientific, isWhole]

theorem decimal_placed (h : IsDigits digits) :
    ∃ k : Nat, (placed negative digits point).decimal =
      .finite negative (Nat.ofDigitChars 10 digits 0 * 10 ^ k) (point - digits.length - k) := by
  unfold placed
  split
  · exact decimal_positional
  · exact ⟨0, by simpa using decimal_scientific h⟩

/-- A decimal as it is laid out: without the zeros at its end, in the form that its size calls for.
Zero has its point behind the first digit. -/
def ofLayout (negative : Bool) (coefficient : Nat) (scale : Int) : Spelling :=
  let trimmed := Binary64.trimZeros coefficient
  let digits := Text.ofNat trimmed.1
  placed negative digits (if coefficient = 0 then 1 else digits.length + trimmed.2 + scale)

section Layout

variable (negative : Bool) (coefficient : Nat) (scale : Int)

/-- What is laid out is written as the text of its spelling. -/
theorem text_ofLayout : (ofLayout negative coefficient scale).text =
    Binary64.layout (.finite negative coefficient scale) := by
  simp only [ofLayout, placed, Binary64.layout]
  -- both sides decide by the place of the point alone
  generalize (if coefficient = 0 then (1 : Int) else _) = point
  by_cases h : -4 < point ∧ point ≤ 16
  · rw [if_pos h, if_pos h, text_positional (isDigits_ofNat _)]
  · rw [if_neg h, if_neg h, text_scientific]

theorem wellFormed_ofLayout : (ofLayout negative coefficient scale).WellFormed :=
  wellFormed_placed (isDigits_ofNat _)

/-- What is laid out is never written as a whole number, so it is read back as a float. -/
theorem isWhole_ofLayout : (ofLayout negative coefficient scale).isWhole = false :=
  isWhole_placed (isDigits_ofNat _)

/-- What is laid out has the sign and the value of the decimal. -/
theorem decimal_ofLayout : ∃ (c : Nat) (e : Int),
    (ofLayout negative coefficient scale).decimal = .finite negative c e ∧
      (c : ℚ) * 10 ^ e = coefficient * 10 ^ scale := by
  have htrim := trimZeros_eq coefficient
  simp only [ofLayout]
  generalize Binary64.trimZeros coefficient = trimmed at htrim ⊢
  obtain ⟨trimmed, zeros⟩ := trimmed
  simp only at htrim ⊢
  generalize hpoint : (if coefficient = 0 then (1 : Int) else _) = point
  obtain ⟨k, hk⟩ : ∃ k : Nat, (placed negative (Text.ofNat trimmed) point).decimal =
      .finite negative (Nat.ofDigitChars 10 (Text.ofNat trimmed) 0 * 10 ^ k)
        (point - (Text.ofNat trimmed).length - k) :=
    decimal_placed (isDigits_ofNat trimmed)
  rw [ofDigitChars_ofNat] at hk
  refine ⟨_, _, hk, ?_⟩
  rw [mul_pow_shift]
  -- the digits that are left stand for the coefficient, with the zeros in the power of ten
  by_cases hzero : coefficient = 0
  · have htrimmed : trimmed = 0 := by simpa [hzero] using htrim
    simp [hzero, htrimmed]
  · rw [if_neg hzero] at hpoint
    have hscale : point - (Text.ofNat trimmed).length - zeros = scale := by omega
    rw [← mul_pow_shift trimmed zeros, htrim, hscale]

end Layout

end Spelling

end SqlTemplate
