import Mathlib.Algebra.Order.Floor.Semifield
import SqlTemplate.Proofs.Number.Nearest

/-!
# Whole parts

The whole part of a value is what is left when its fraction is cut off, whatever its sign
(`wholePart`). Numbers of each format have the whole part of their value (`Binary64.truncate?_eq`,
`Decimal.truncate?_eq`). A decimal that is rounded to the binary format may have another one before
than after, but not if it has few digits (`Binary64.truncate?_ofDecimal`).
-/

namespace SqlTemplate

/-- The value with its fraction cut off, which rounds it toward zero. -/
def wholePart (q : ℚ) : Int :=
  if 0 ≤ q then ⌊q⌋ else ⌈q⌉

@[simp]
theorem wholePart_intCast (n : Int) : wholePart n = n := by
  unfold wholePart
  split
  · exact Int.floor_intCast n
  · exact Int.ceil_intCast n

theorem wholePart_of_nonneg {q : ℚ} (hq : 0 ≤ q) : wholePart q = ⌊q⌋ :=
  if_pos hq

/-- The whole part turns with the sign. -/
theorem wholePart_neg (q : ℚ) : wholePart (-q) = -wholePart q := by
  rcases lt_trichotomy q 0 with hq | rfl | hq
  · rw [wholePart, if_pos (neg_nonneg.mpr hq.le), wholePart, if_neg hq.not_ge, Int.floor_neg]
  · simp [wholePart]
  · have hneg : ¬ 0 ≤ -q := by linarith
    rw [wholePart, if_neg hneg, wholePart, if_pos hq.le, Int.ceil_neg]

/-- The sign of a value has no part in what is cut off. -/
theorem wholePart_signed (negative : Bool) {r : ℚ} (hr : 0 ≤ r) :
    wholePart ((signed negative 1 : Int) * r) = signed negative ⌊r⌋₊ := by
  have hwhole : wholePart r = ⌊r⌋₊ :=
    (wholePart_of_nonneg hr).trans (Int.natCast_floor_eq_floor hr).symm
  cases negative with
  | false => simpa [signed] using hwhole
  | true => simpa [signed, wholePart_neg] using hwhole

/-- The whole part of a fraction is the quotient that is rounded toward zero. -/
theorem wholePart_eq_tdiv (q : ℚ) : wholePart q = q.num.tdiv q.den := by
  have hnonneg : ∀ q : ℚ, 0 ≤ q → wholePart q = q.num.tdiv q.den := by
    intro q hq
    rw [wholePart_of_nonneg hq, Rat.floor_def',
      Int.tdiv_eq_ediv_of_nonneg (Rat.num_nonneg.mpr hq)]
  rcases le_total 0 q with hq | hq
  · exact hnonneg q hq
  · have hneg := hnonneg (-q) (neg_nonneg.mpr hq)
    rw [wholePart_neg, Rat.num_neg_eq_neg_num, Rat.den_neg_eq_den, Int.neg_tdiv] at hneg
    exact neg_inj.mp hneg

/-- The fraction of a number times a power is cut off by a division. -/
theorem wholePart_mul_zpow (negative : Bool) {b : Nat} (hb : 0 < b) (n : Nat) (e : Int) :
    wholePart ((signed negative n : Int) * (b : ℚ) ^ e) =
      signed negative (n * power b e / power b (-e)) := by
  have hfloor : ⌊(n : ℚ) * (b : ℚ) ^ e⌋₊ = n * power b e / power b (-e) := by
    rw [← power_div_power hb, ← mul_div_assoc, ← Nat.cast_mul, Nat.floor_div_eq_div]
  rw [cast_signed, mul_assoc, wholePart_signed negative (by positivity), hfloor]

/-- A float is truncated to the whole part of its value. -/
theorem Binary64.truncate?_eq (x : Binary64) : x.truncate? = x.toRat?.map wholePart := by
  cases x with
  | infinite | nan => rfl
  | finite negative significand exponent =>
    exact congrArg some (wholePart_mul_zpow negative Nat.two_pos significand exponent).symm

/-- A decimal that starts behind the point is less than one. -/
theorem Decimal.truncate?_eq (d : Decimal) : d.truncate? = d.toRat?.map wholePart := by
  cases d with
  | infinite | nan => rfl
  | finite negative coefficient exponent =>
    have hten : (0 : Nat) < 10 := by decide
    rw [toRat?, Option.map_some, truncate?]
    split
    -- the short cut: the first digit stands behind the point
    · rename_i hshort
      have hless : (coefficient : ℚ) * 10 ^ exponent < 1 := by
        rcases Nat.eq_zero_or_pos coefficient with rfl | hpos
        · simp
        · rw [← zpow_zero (10 : ℚ)]
          exact (Binary64.size_le_iff hpos exponent 0).mp hshort
      rw [cast_signed, mul_assoc, wholePart_signed negative (by positivity),
        Nat.floor_eq_zero.mpr hless]
      cases negative <;> rfl
    · exact congrArg some (wholePart_mul_zpow negative hten coefficient exponent).symm

/-- A decimal with few digits has the same whole part after it is rounded. -/
theorem Binary64.truncate?_ofDecimal {d : Decimal} {q : ℚ} (hd : d.toRat? = some q) {c : Int}
    {k : Nat} (hq : q * 10 ^ k = c) (hc : |c| < 2 ^ 53) :
    (ofDecimal d).truncate? = some (wholePart q) := by
  cases d with
  | infinite | nan => cases hd
  | finite negative coefficient exponent =>
    cases hd
    rw [cast_signed, mul_assoc _ (coefficient : ℚ)] at hq ⊢
    have hr : (0 : ℚ) ≤ coefficient * 10 ^ exponent := by positivity
    have hbits : c.natAbs < 2 ^ 53 := by
      rw [Int.abs_eq_natAbs] at hc
      exact_mod_cast hc
    have hvalue : (coefficient : ℚ) * 10 ^ exponent * 10 ^ k = c.natAbs := by
      have habs := congrArg abs hq
      rwa [mul_assoc, abs_signed_one_mul, abs_of_nonneg (by positivity), ← Int.cast_abs,
        Int.abs_eq_natAbs, Int.cast_natCast] at habs
    rw [truncate?_eq, wholePart_signed negative hr]
    cases ofDecimal_roundsTo negative coefficient exponent with
    -- few digits are far below the greatest number, so there is no overflow
    | overflow hlarge =>
      have hten : (1 : ℚ) ≤ 10 ^ k := one_le_pow₀ (by norm_num)
      have hbelow : (c.natAbs : ℚ) < 2 ^ (53 : Int) := by exact_mod_cast hbits
      have hle : (2 : ℚ) ^ (1023 : Int) ≤ c.natAbs :=
        hlarge.trans (hvalue ▸ le_mul_of_one_le_right hr hten)
      have hlt := (zpow_lt_zpow_iff_right₀ one_lt_two).mp (hle.trans_lt hbelow)
      exact absurd hlt (by decide)
    | finite hrounds hfinite =>
      rw [hfinite, Option.map_some, cast_signed, mul_assoc,
        wholePart_signed negative (by positivity), hrounds.floor_eq hvalue hbits]

end SqlTemplate
