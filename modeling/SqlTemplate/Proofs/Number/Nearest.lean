import SqlTemplate.Proofs.Number.Rounding

/-!
# Rounding goes to the nearest number

A decimal is rounded on a grid, the multiples of a power of two, to the nearest of them. The power
is chosen by the size of the value, so that the grid is never coarser than the numbers of the format
are around the value (`Rounds`). Numbers off the grid are small: they lie below the least power of
two that the value can have, which is on the grid and nearer. So no number of the format is nearer
than the one chosen (`Binary64.ofDecimal_nearest`).

Where the value is a decimal with few digits, the grid is finer than the decimals with as many, and
a value below a whole number is not rounded up to it (`Rounds.floor_eq`).
-/

namespace SqlTemplate

/-! ## Whole numbers -/

/-- The rest of the division is at most half of the divisor, once it is rounded away. -/
theorem roundHalfEven_bounds (num : Nat) {den : Nat} (hden : 0 < den) :
    2 * (roundHalfEven num den * den) ≤ 2 * num + den ∧
      2 * num ≤ 2 * (roundHalfEven num den * den) + den := by
  have hdivision : num / den * den + num % den = num := Nat.div_add_mod' num den
  have hrest : num % den < den := Nat.mod_lt num hden
  have hsucc : (num / den + 1) * den = num / den * den + den := Nat.succ_mul ..
  unfold roundHalfEven
  simp only
  split
  · omega
  · split
    · rw [hsucc]
      omega
    · -- a tie is equally far from both neighbours
      rcases Nat.mod_two_eq_zero_or_one (num / den) with hparity | hparity
      · rw [hparity, Nat.add_zero]
        omega
      · rw [hparity, hsucc]
        omega

/-- What is rounded is off by one half at most. -/
theorem roundHalfEven_half (num : Nat) {den : Nat} (hden : 0 < den) :
    2 * |(num : ℚ) / den - roundHalfEven num den| ≤ 1 := by
  have hden' : (0 : ℚ) < den := by exact_mod_cast hden
  obtain ⟨habove, hbelow⟩ := roundHalfEven_bounds num hden
  generalize roundHalfEven num den = n at habove hbelow ⊢
  have habove' : 2 * ((n : ℚ) * den) ≤ 2 * num + den := by exact_mod_cast habove
  have hbelow' : 2 * (num : ℚ) ≤ 2 * (n * den) + den := by exact_mod_cast hbelow
  have hlower : (n : ℚ) - 1 / 2 ≤ num / den := by
    rw [le_div_iff₀ hden']
    linarith
  have hupper : (num : ℚ) / den ≤ n + 1 / 2 := by
    rw [div_le_iff₀ hden']
    linarith
  have hhalf : |(num : ℚ) / den - n| ≤ 1 / 2 := abs_le.mpr ⟨by linarith, by linarith⟩
  linarith

/-! ## Signs -/

/-- A sign is a factor. -/
theorem cast_signed (negative : Bool) (n : Nat) :
    ((signed negative n : Int) : ℚ) = (signed negative 1 : Int) * n := by
  cases negative <;> simp [signed]

theorem abs_signed_one_mul (negative : Bool) (r : ℚ) :
    |((signed negative 1 : Int) : ℚ) * r| = |r| := by
  cases negative <;> simp [signed]

/-! ## On the grid -/

/-- The value is rounded to a multiple of a power of two, to the nearest one or to one of two. The
power is the least that a number can have, or it leaves at least 53 bits for the value. -/
structure Rounds (r : ℚ) (significand : Nat) (exponent : Int) : Prop where
  least : -1074 ≤ exponent
  lower : exponent = -1074 ∨ (2 : ℚ) ^ (exponent + 52) ≤ r
  upper : r < (2 : ℚ) ^ (exponent + 53)
  half : 2 * |r - significand * 2 ^ exponent| ≤ 2 ^ exponent

namespace Rounds

variable {r : ℚ} {significand : Nat} {exponent : Int}

/-- On its own grid no point is nearer to the value than the one that it is rounded to. -/
theorem nearest_multiple (h : Rounds r significand exponent) (n : Int) :
    |r - significand * 2 ^ exponent| ≤ |r - n * 2 ^ exponent| := by
  by_cases hn : n = significand
  · rw [hn, Int.cast_natCast]
  · have hpow : (0 : ℚ) < 2 ^ exponent := by positivity
    have hone : (1 : ℚ) ≤ |(n : ℚ) - significand| := by
      have hne : n - significand ≠ 0 := sub_ne_zero.mpr hn
      exact_mod_cast Int.one_le_abs hne
    have hgap : (2 : ℚ) ^ exponent ≤ |(n : ℚ) * 2 ^ exponent - significand * 2 ^ exponent| := by
      rw [← sub_mul, abs_mul, abs_of_pos hpow]
      exact le_mul_of_one_le_left hpow.le hone
    have htriangle := abs_sub_le (n * (2 : ℚ) ^ exponent) r (significand * 2 ^ exponent)
    rw [abs_sub_comm _ r] at htriangle
    linarith [h.half]

/-- No number of the format is nearer. -/
theorem nearest (h : Rounds r significand exponent) {significand' exponent' : Int}
    (hsignificand : |significand'| < 2 ^ 53) (hexponent : -1074 ≤ exponent') :
    |r - significand * 2 ^ exponent| ≤ |r - significand' * 2 ^ exponent'| := by
  -- a number of a coarser grid lies on this one, and one of a finer grid lies below all of the
  -- values
  rcases le_or_gt exponent exponent' with hle | hlt
  · -- the number is on the grid
    obtain ⟨n, rfl⟩ : ∃ n : Nat, exponent' = exponent + n :=
      ⟨(exponent' - exponent).toNat, by omega⟩
    have hmultiple : (significand' : ℚ) * 2 ^ (exponent + n) =
        (significand' * 2 ^ n : Int) * 2 ^ exponent := by
      push_cast
      rw [zpow_add₀ two_ne_zero, zpow_natCast]
      ring
    rw [hmultiple]
    exact h.nearest_multiple _
  · -- the number is smaller than a power of two that is on the grid and not above the value
    have hlower : (2 : ℚ) ^ (exponent + 52) ≤ r := h.lower.resolve_left (by omega)
    have hgrid : ((2 ^ 52 : Int) : ℚ) * 2 ^ exponent = 2 ^ (exponent + 52) := by
      rw [add_comm, zpow_add₀ two_ne_zero]
      norm_num
    have hsmall : (significand' : ℚ) * 2 ^ exponent' ≤ 2 ^ (exponent + 52) := by
      have hcast : (significand' : ℚ) ≤ 2 ^ (53 : Int) := by
        exact_mod_cast ((le_abs_self significand').trans_lt hsignificand).le
      calc (significand' : ℚ) * 2 ^ exponent' ≤ 2 ^ (53 : Int) * 2 ^ exponent' := by gcongr
        _ ≤ 2 ^ (53 : Int) * 2 ^ (exponent - 1) := by
            gcongr
            · norm_num
            · omega
        _ = 2 ^ (exponent + 52) := by
            rw [← zpow_add₀ two_ne_zero]
            congr 1
            omega
    calc |r - significand * 2 ^ exponent| ≤ |r - (2 ^ 52 : Int) * 2 ^ exponent| :=
          h.nearest_multiple _
      _ = r - 2 ^ (exponent + 52) := by rw [hgrid, abs_of_nonneg (sub_nonneg.mpr hlower)]
      _ ≤ r - significand' * 2 ^ exponent' := by linarith
      _ ≤ |r - significand' * 2 ^ exponent'| := le_abs_self _

/-- The value is rounded to at most the next power of two. -/
theorem significand_le (h : Rounds r significand exponent) : significand ≤ 2 ^ 53 := by
  have hpow : (0 : ℚ) < 2 ^ exponent := by positivity
  have hupper := h.upper
  rw [add_comm, zpow_add₀ two_ne_zero] at hupper
  have hbelow : (significand : ℚ) * 2 ^ exponent < (2 ^ 53 + 1) * 2 ^ exponent := by
    have hhalf := h.half
    have habs := neg_abs_le (r - significand * 2 ^ exponent)
    have hnorm : (2 : ℚ) ^ (53 : Int) = 2 ^ 53 := by norm_num
    rw [hnorm] at hupper
    linarith
  have hlt : (significand : ℚ) < 2 ^ 53 + 1 := lt_of_mul_lt_mul_right hbelow hpow.le
  exact Nat.lt_succ_iff.mp (by exact_mod_cast hlt)

/-- On any grid but the finest, the value is rounded to a number with all its bits. -/
theorem le_significand (h : Rounds r significand exponent) (hexponent : exponent ≠ -1074) :
    2 ^ 52 ≤ significand := by
  have hpow : (0 : ℚ) < 2 ^ exponent := by positivity
  have hlower := h.lower.resolve_left hexponent
  rw [add_comm, zpow_add₀ two_ne_zero] at hlower
  have habove : (2 ^ 52 : ℚ) * 2 ^ exponent < (significand + 1) * 2 ^ exponent := by
    have hhalf := h.half
    have habs := le_abs_self (r - significand * 2 ^ exponent)
    have hnorm : (2 : ℚ) ^ (52 : Int) = 2 ^ 52 := by norm_num
    rw [hnorm] at hlower
    linarith
  have hlt : (2 ^ 52 : ℚ) < significand + 1 := lt_of_mul_lt_mul_right habove hpow.le
  exact Nat.lt_succ_iff.mp (by exact_mod_cast hlt)

/-- On the coarsest grid and beyond, the value is as large as the greatest numbers are. -/
theorem large (h : Rounds r significand exponent) (hexponent : 971 ≤ exponent) :
    (2 : ℚ) ^ (1023 : Int) ≤ r := by
  have hlower := h.lower.resolve_left (by omega)
  exact (zpow_le_zpow_right₀ one_le_two (by omega)).trans hlower

/-- A value with few bits before the point is rounded on a grid that holds all whole numbers. -/
theorem exponent_nonpos (h : Rounds r significand exponent) (hr : r < 2 ^ (53 : Int)) :
    exponent ≤ 0 := by
  rcases h.lower with hleast | hlower
  · omega
  · have hlt := (zpow_lt_zpow_iff_right₀ one_lt_two).mp (hlower.trans_lt hr)
    omega

/-- A grid that holds the whole numbers also holds the whole part, and so the value is not rounded
to below it. -/
theorem floor_le (h : Rounds r significand exponent) (hr : 0 ≤ r) (hexponent : exponent ≤ 0) :
    (⌊r⌋₊ : ℚ) ≤ significand * 2 ^ exponent := by
  have hmultiple : ((⌊r⌋₊ * 2 ^ (-exponent).toNat : Int) : ℚ) * 2 ^ exponent = ⌊r⌋₊ := by
    push_cast
    rw [mul_assoc, ← zpow_natCast, Int.toNat_of_nonneg (by omega), ← zpow_add₀ two_ne_zero,
      neg_add_cancel, zpow_zero, mul_one]
  have hnearest := h.nearest_multiple (⌊r⌋₊ * 2 ^ (-exponent).toNat)
  rw [hmultiple, abs_of_nonneg (sub_nonneg.mpr (Nat.floor_le hr))] at hnearest
  linarith [le_abs_self (r - significand * 2 ^ exponent)]

/-- The next whole number is farther from a decimal with few digits than half of the power of two
that it is rounded at, because it is farther by a unit of the last digit at least. -/
theorem gap_lt (h : Rounds r significand exponent) {c k : Nat} (hr : r * 10 ^ k = c)
    (hc : c < 2 ^ 53) : (2 : ℚ) ^ exponent < 2 * (⌊r⌋₊ + 1 - r) := by
  rcases h.lower with hleast | hlower
  · -- so small a value is less than one half
    have hhalf : ∀ e : Int, e ≤ -1 → (2 : ℚ) ^ e ≤ 1 / 2 := fun e he => by
      rw [one_div, ← zpow_neg_one]
      exact zpow_le_zpow_right₀ one_le_two he
    have hr' := h.upper.trans_le (hhalf _ (by omega))
    have hpow := hhalf exponent (by omega)
    have hfloor : (0 : ℚ) ≤ ⌊r⌋₊ := Nat.cast_nonneg _
    linarith
  · have hunit : (1 : ℚ) ≤ (⌊r⌋₊ + 1 - r) * 10 ^ k := by
      have hlt : (c : ℚ) < ((⌊r⌋₊ + 1) * 10 ^ k : Nat) := by
        push_cast
        rw [← hr]
        gcongr
        exact Nat.lt_floor_add_one r
      have hle : ((c + 1 : Nat) : ℚ) ≤ ((⌊r⌋₊ + 1) * 10 ^ k : Nat) := by exact_mod_cast hlt
      push_cast at hle
      linarith
    have hpow : (2 : ℚ) ^ exponent * 10 ^ k < 2 := by
      have hc' : (c : ℚ) < 2 ^ (53 : Int) := by exact_mod_cast hc
      have hscaled : (2 : ℚ) ^ (exponent + 52) * 10 ^ k < 2 ^ (53 : Int) :=
        (mul_le_mul_of_nonneg_right hlower (by positivity)).trans_lt (hr ▸ hc')
      rw [zpow_add₀ two_ne_zero] at hscaled
      norm_num at hscaled
      linarith
    have hgap : (2 : ℚ) ^ exponent * 10 ^ k < 2 * (⌊r⌋₊ + 1 - r) * 10 ^ k := by linarith
    exact lt_of_mul_lt_mul_right hgap (by positivity)

/-- A decimal with few digits keeps its whole part. -/
theorem floor_eq (h : Rounds r significand exponent) {c k : Nat} (hr : r * 10 ^ k = c)
    (hc : c < 2 ^ 53) : ⌊(significand : ℚ) * 2 ^ exponent⌋₊ = ⌊r⌋₊ := by
  have hten : (1 : ℚ) ≤ 10 ^ k := one_le_pow₀ (by norm_num)
  have hnonneg : 0 ≤ r := by
    have hproduct : 0 ≤ r * 10 ^ k := hr ▸ Nat.cast_nonneg c
    exact nonneg_of_mul_nonneg_left hproduct (by positivity)
  have hbelow : r < 2 ^ (53 : Int) := by
    have hc' : (c : ℚ) < 2 ^ (53 : Int) := by exact_mod_cast hc
    exact (le_mul_of_one_le_right hnonneg hten).trans_lt (hr ▸ hc')
  refine (Nat.floor_eq_iff (by positivity)).mpr ⟨?_, ?_⟩
  · exact h.floor_le hnonneg (h.exponent_nonpos hbelow)
  · have hgap := h.gap_lt hr hc
    linarith [h.half, neg_abs_le (r - significand * 2 ^ exponent)]

end Rounds

/-! ## Quotients -/

section Quotient

variable {num den : Nat}

/-- A quotient that is scaled to a grid, without a division. -/
theorem scaled_eq (num den : Nat) (exponent : Int) :
    ((num * power 2 (-exponent) : Nat) : ℚ) / (den * power 2 exponent : Nat) =
      num / den / 2 ^ exponent := by
  have hpower := power_div_power (b := 2) (by decide) exponent
  push_cast at hpower ⊢
  rw [mul_div_mul_comm, ← inv_div (power 2 exponent : ℚ), hpower, ← div_eq_mul_inv]

/-- A quotient is rounded on the grid that fits its logarithm. -/
theorem rounds_quotient (hnum : 0 < num) (hden : 0 < den) (exponent : Int)
    (hexponent : exponent = max (floorLog2 num den - 52) (-1074)) :
    Rounds ((num : ℚ) / den)
      (roundHalfEven (num * power 2 (-exponent)) (den * power 2 exponent)) exponent := by
  have hr : (0 : ℚ) < (num : ℚ) / den := by positivity
  have hpow : (0 : ℚ) < 2 ^ exponent := by positivity
  rw [floorLog2_eq hnum hden] at hexponent
  refine ⟨by omega, ?_, ?_, ?_⟩
  · by_cases hleast : exponent = -1074
    · exact .inl hleast
    · refine .inr ((Int.zpow_le_iff_le_log (b := 2) (by decide) hr).mpr ?_)
      omega
  · refine (Int.lt_zpow_iff_log_lt (b := 2) (by decide) hr).mpr ?_
    omega
  · have hround := roundHalfEven_half (num * power 2 (-exponent))
      (Nat.mul_pos hden (power_pos Nat.two_pos exponent))
    rw [scaled_eq] at hround
    generalize roundHalfEven _ _ = significand at hround ⊢
    have hscale : (num : ℚ) / den - significand * 2 ^ exponent =
        (num / den / 2 ^ exponent - significand) * 2 ^ exponent := by
      field_simp
    rw [hscale, abs_mul, abs_of_pos hpow, ← mul_assoc]
    exact mul_le_of_le_one_left hpow.le hround

end Quotient

namespace Binary64

/-- What a value that is not negative is rounded to, with its sign: a number, or an infinity where
the value is too large. -/
inductive RoundsTo (negative : Bool) (r : ℚ) (x : Binary64) : Prop
  | finite {significand : Nat} {exponent : Int} (rounds : Rounds r significand exponent)
    (value : x.toRat? = some (signed negative significand * (2 : ℚ) ^ exponent))
  | overflow (large : (2 : ℚ) ^ (1023 : Int) ≤ r) (value : x.toRat? = none)

/-- Parts that fit the format make the number of their value, and others an infinity. -/
theorem toRat?_ofParts (negative : Bool) (significand : Nat) (exponent : Int) :
    (ofParts negative significand exponent).toRat? =
      if IsCanonical significand exponent then
        some (signed negative significand * (2 : ℚ) ^ exponent)
      else none := by
  unfold ofParts
  split <;> rfl

/-- A significand of one bit too many is a power of two, and one bit fewer is enough for it. -/
theorem roundsTo_carried (negative : Bool) {r : ℚ} {exponent : Int}
    (h : Rounds r (2 ^ 53) exponent) :
    RoundsTo negative r (ofParts negative (2 ^ 52) (exponent + 1)) := by
  by_cases hlarge : 971 ≤ exponent
  · have hcanonical : ¬ IsCanonical (2 ^ 52) (exponent + 1) := fun hcanonical => by
      have hgreatest := hcanonical.2.2.1
      omega
    exact .overflow (h.large hlarge) ((toRat?_ofParts ..).trans (if_neg hcanonical))
  · have hleast := h.least
    have hcanonical : IsCanonical (2 ^ 52) (exponent + 1) :=
      ⟨by decide, by omega, by omega, .inl le_rfl⟩
    refine .finite h ((toRat?_ofParts ..).trans ((if_pos hcanonical).trans (congrArg some ?_)))
    rw [cast_signed, cast_signed negative (2 ^ 53), zpow_add_one₀ two_ne_zero]
    push_cast
    ring

theorem roundsTo_ofParts (negative : Bool) {r : ℚ} {significand : Nat} {exponent : Int}
    (h : Rounds r significand exponent) (hcarry : significand ≠ 2 ^ 53) :
    RoundsTo negative r (ofParts negative significand exponent) := by
  -- the only limit that rounding can break is the one above
  by_cases hlarge : 971 < exponent
  · have hcanonical : ¬ IsCanonical significand exponent := fun hcanonical =>
      hlarge.not_ge hcanonical.2.2.1
    exact .overflow (h.large hlarge.le) ((toRat?_ofParts ..).trans (if_neg hcanonical))
  · have hnormal : 2 ^ 52 ≤ significand ∨ exponent = -1074 := by
      by_cases hleast : exponent = -1074
      · exact .inr hleast
      · exact .inl (h.le_significand hleast)
    have hcanonical : IsCanonical significand exponent :=
      ⟨lt_of_le_of_ne h.significand_le hcarry, h.least, not_lt.mp hlarge, hnormal⟩
    exact .finite h ((toRat?_ofParts ..).trans (if_pos hcanonical))

/-- What is less than half of the least number is rounded to zero. -/
theorem rounds_zero {r : ℚ} (hr : 0 ≤ r) (hsmall : 2 * r ≤ 2 ^ (-1074 : Int)) :
    Rounds r 0 (-1074) where
  least := le_rfl
  lower := .inl rfl
  upper := by
    have hpow : (2 : ℚ) ^ (-1074 : Int) ≤ 2 ^ (-1074 + 53 : Int) :=
      zpow_le_zpow_right₀ one_le_two (by norm_num)
    have hpos : (0 : ℚ) < 2 ^ (-1074 : Int) := by positivity
    linarith
  half := by
    rw [Nat.cast_zero, zero_mul, sub_zero, abs_of_nonneg hr]
    exact hsmall

theorem roundsTo_zero (negative : Bool) {r : ℚ} (hr : 0 ≤ r)
    (hsmall : 2 * r ≤ 2 ^ (-1074 : Int)) : RoundsTo negative r (zero negative) :=
  .finite (rounds_zero hr hsmall) rfl

theorem ofQuotient_roundsTo (negative : Bool) (num : Nat) {den : Nat} (hden : 0 < den) :
    RoundsTo negative ((num : ℚ) / den) (ofQuotient negative num den) := by
  by_cases hnum : num = 0
  · rw [ofQuotient, if_pos hnum, hnum, Nat.cast_zero, zero_div]
    refine roundsTo_zero negative le_rfl ?_
    rw [mul_zero]
    positivity
  · have hrounds := rounds_quotient (Nat.pos_of_ne_zero hnum) hden
      (max (floorLog2 num den - (precision - 1 : Nat)) minExponent) rfl
    rw [ofQuotient, if_neg hnum]
    simp only
    split
    · rename_i hcarry
      rw [hcarry] at hrounds
      exact roundsTo_carried negative hrounds
    · rename_i hcarry
      exact roundsTo_ofParts negative hrounds hcarry

/-- How many digits stand before the point says how large a decimal is. -/
theorem size_le_iff {c : Nat} (hc : 0 < c) (e n : Int) :
    (digitCount c : Int) + e ≤ n ↔ (c : ℚ) * 10 ^ e < 10 ^ n := by
  have hlog := Int.lt_zpow_iff_log_lt (b := 10) (x := n) (by decide)
    (show (0 : ℚ) < c * 10 ^ e by positivity)
  push_cast at hlog
  rw [hlog, digitCount_add hc]
  omega

/-- Decimals are rounded to the nearest number. The short cuts are taken only where the result is
zero or an infinity anyway. -/
theorem ofDecimal_roundsTo (negative : Bool) (c : Nat) (e : Int) :
    RoundsTo negative ((c : ℚ) * 10 ^ e) (ofDecimal (.finite negative c e)) := by
  rcases Nat.eq_zero_or_pos c with rfl | hc
  · have hzero : RoundsTo negative 0 (zero negative) := by
      refine roundsTo_zero negative le_rfl ?_
      rw [mul_zero]
      positivity
    rw [Nat.cast_zero, zero_mul]
    exact hzero
  · have hquotient := ofQuotient_roundsTo negative (c * power 10 e)
      (power_pos (b := 10) (by decide) (-e))
    rw [quotient_eq] at hquotient
    rw [ofDecimal]
    simp only [hc.ne', decide_false, Bool.false_or, decide_eq_true_eq]
    split
    · -- the value is far below the least number
      rename_i hshort
      have hten : (c : ℚ) * 10 ^ e < 10 ^ (-330 : Int) := (size_le_iff hc e _).mp hshort.le
      refine roundsTo_zero negative (by positivity) ?_
      calc 2 * ((c : ℚ) * 10 ^ e) ≤ 10 ^ (1 : Int) * (10 : ℚ) ^ (-330 : Int) := by
            rw [zpow_one]
            gcongr
            norm_num
        _ = 10 ^ (-329 : Int) := by
            rw [← zpow_add₀ (by norm_num)]
            rfl
        _ ≤ ((10 : Nat) : ℚ) ^ (-324 : Int) := zpow_le_zpow_right₀ (by norm_num) (by norm_num)
        _ ≤ 2 ^ (-1074 : Int) := ten_zpow_le_two_zpow
    · split
      · -- the value is above the greatest number
        rename_i hlarge
        have hten : (10 : ℚ) ^ (309 : Int) ≤ c * 10 ^ e :=
          not_lt.mp (mt (size_le_iff hc e _).mpr (by omega))
        refine .overflow ?_ rfl
        calc (2 : ℚ) ^ (1023 : Int) ≤ 2 ^ (1024 : Int) :=
              zpow_le_zpow_right₀ one_le_two (by norm_num)
          _ ≤ ((10 : Nat) : ℚ) ^ (309 : Int) := two_zpow_lt_ten_zpow.le
          _ ≤ c * 10 ^ e := hten
      · exact hquotient

/-- No number of the format is nearer to a value than the one that it is rounded to. -/
theorem RoundsTo.nearest {negative : Bool} {r v v' : ℚ} {x y : Binary64}
    (h : RoundsTo negative r x) (hx : x.toRat? = some v) (hy : y.toRat? = some v') :
    |(signed negative 1 : Int) * r - v| ≤ |(signed negative 1 : Int) * r - v'| := by
  cases h with
  | overflow _ hnone => cases hx.symm.trans hnone
  | @finite significand exponent hrounds hvalue =>
    cases hx.symm.trans hvalue
    -- an infinity and a NaN have no value to compare
    cases y with
    | infinite | nan => cases hy
    | finite negative' significand' exponent' hcanonical =>
      cases hy
      have hsign : ((signed negative 1 : Int) : ℚ) * (signed negative 1 : Int) = 1 := by
        cases negative <;> simp [signed]
      have hbits : |signed negative 1 * signed negative' significand'| < 2 ^ 53 := by
        have habs : |signed negative 1 * signed negative' significand'| = significand' := by
          cases negative <;> cases negative' <;> simp [signed]
        rw [habs]
        exact_mod_cast hcanonical.1
      have hle := hrounds.nearest hbits hcanonical.2.1
      rw [Int.cast_mul, mul_assoc] at hle
      calc |(signed negative 1 : Int) * r - signed negative significand * 2 ^ exponent|
          = |(signed negative 1 : Int) * (r - significand * 2 ^ exponent)| := by
            rw [cast_signed negative significand, mul_sub, mul_assoc]
        _ = |r - significand * 2 ^ exponent| := abs_signed_one_mul ..
        _ ≤ |r - (signed negative 1 : Int) *
              ((signed negative' significand' : Int) * 2 ^ exponent')| := hle
        _ = |(signed negative 1 : Int) * (r - (signed negative 1 : Int) *
              ((signed negative' significand' : Int) * 2 ^ exponent'))| :=
            (abs_signed_one_mul ..).symm
        _ = |(signed negative 1 : Int) * r -
              (signed negative' significand' : Int) * 2 ^ exponent'| := by
            rw [mul_sub, ← mul_assoc (_ : ℚ) (_ : ℚ) (_ * _), hsign, one_mul]

/-- No number of the format is nearer to a decimal than the one that it is read as. -/
theorem ofDecimal_nearest {d : Decimal} {q v v' : ℚ} {y : Binary64} (hd : d.toRat? = some q)
    (hv : (ofDecimal d).toRat? = some v) (hy : y.toRat? = some v') : |q - v| ≤ |q - v'| := by
  cases d with
  | finite negative c e =>
    cases hd
    rw [cast_signed, mul_assoc]
    exact (ofDecimal_roundsTo negative c e).nearest hv hy
  | infinite | nan => cases hd

end Binary64

end SqlTemplate
