import Mathlib.Algebra.Order.Field.Power
import Mathlib.Data.Int.Log
import Mathlib.Data.Rat.Floor
import Mathlib.Tactic.FieldSimp
import Mathlib.Tactic.Linarith
import Mathlib.Tactic.NormNum
import Mathlib.Tactic.Positivity
import Mathlib.Tactic.Ring
import SqlTemplate.Number.Binary64

/-!
# Rounding depends on the value alone

A number is rounded from a quotient of naturals, and a decimal is read from its digits and its power
of ten. Neither the quotient nor the digits are unique. What is proved here is that the rounded
number depends on the value alone:

* `floorLog2_eq`: the exponent is chosen by the binary logarithm of the value.
* `Binary64.ofQuotient_congr`, `Binary64.ofDecimal_congr`: equal values are rounded to one number.
* `Binary64.ofQuotient_exact`, `Binary64.ofDecimal_exact`: a value that is a number is that number.
-/

namespace SqlTemplate

/-! ## Powers and logarithms -/

/-- The power of which a logarithm is the exponent lies at most at the number, and the next one
above it. -/
theorem eq_log_of_bounds {b : Nat} (hb : 1 < b) {r : ℚ} (hr : 0 < r) {e : Int}
    (hlower : (b : ℚ) ^ e ≤ r) (hupper : r < (b : ℚ) ^ (e + 1)) : e = Int.log b r := by
  have hle : e ≤ Int.log b r := (Int.zpow_le_iff_le_log hb hr).mp hlower
  have hlt : Int.log b r < e + 1 := (Int.lt_zpow_iff_log_lt hb hr).mp hupper
  omega

/-- Of the two powers with opposite exponents one is the power and the other is one. -/
theorem power_div_power {b : Nat} (hb : 0 < b) (e : Int) :
    (power b e : ℚ) / power b (-e) = (b : ℚ) ^ e := by
  have hb' : (b : ℚ) ≠ 0 := by positivity
  have hpower : ∀ e : Int, (power b e : ℚ) = (b : ℚ) ^ e.toNat := fun e => Nat.cast_pow b e.toNat
  rw [hpower, hpower, ← zpow_natCast, ← zpow_natCast, ← zpow_sub₀ hb']
  congr 1
  omega

theorem power_pos {b : Nat} (hb : 0 < b) (e : Int) : 0 < power b e :=
  Nat.pow_pos hb

/-- A quotient lies below a power exactly if the comparison says so. -/
theorem belowPower_iff {b num den : Nat} (hb : 0 < b) (hden : 0 < den) (e : Int) :
    belowPower b num den e = true ↔ (num : ℚ) / den < (b : ℚ) ^ e := by
  have hneg : (0 : ℚ) < power b (-e) := by exact_mod_cast power_pos hb (-e)
  have hden' : (0 : ℚ) < den := by exact_mod_cast hden
  rw [← power_div_power hb, div_lt_div_iff₀ hden' hneg, mul_comm (power b e : ℚ)]
  simp only [belowPower, decide_eq_true_eq]
  exact_mod_cast Iff.rfl

/-- A number lies between two neighbouring powers of two, and its logarithm is the exponent of the
lower one. -/
theorem log2_bounds {n : Nat} (hn : 0 < n) :
    (2 : ℚ) ^ (n.log2 : Int) ≤ n ∧ (n : ℚ) < (2 : ℚ) ^ ((n.log2 : Int) + 1) := by
  constructor
  · rw [zpow_natCast]
    exact_mod_cast Nat.log2_self_le hn.ne'
  · rw [← Nat.cast_succ, zpow_natCast]
    exact_mod_cast Nat.lt_log2_self

/-- The estimate from the two logarithms is right or one too large. -/
theorem floorLog2_eq {num den : Nat} (hnum : 0 < num) (hden : 0 < den) :
    floorLog2 num den = Int.log 2 ((num : ℚ) / den) := by
  have hden' : (0 : ℚ) < den := by exact_mod_cast hden
  have hr : (0 : ℚ) < (num : ℚ) / den := by positivity
  have htwo : (2 : ℚ) ≠ 0 := by norm_num
  -- the two numbers lie in [2^a, 2^(a+1)) and [2^b, 2^(b+1)), so the quotient lies between
  -- 2^(a-b-1) and 2^(a-b+1)
  obtain ⟨hnumLower, hnumUpper⟩ := log2_bounds hnum
  obtain ⟨hdenLower, hdenUpper⟩ := log2_bounds hden
  unfold floorLog2
  set estimate : Int := (num.log2 : Int) - den.log2 with hestimate
  have hbelow : belowPower 2 num den estimate = true ↔ (num : ℚ) / den < (2 : Nat) ^ estimate :=
    belowPower_iff (by decide) hden estimate
  push_cast at hbelow
  simp only
  split
  · rename_i h
    refine eq_log_of_bounds (b := 2) (by decide) hr ?_ ?_
    · push_cast
      rw [le_div_iff₀ hden']
      calc (2 : ℚ) ^ (estimate - 1) * den
          ≤ (2 : ℚ) ^ (estimate - 1) * (2 : ℚ) ^ ((den.log2 : Int) + 1) := by gcongr
        _ = (2 : ℚ) ^ (num.log2 : Int) := by
            rw [← zpow_add₀ htwo]
            congr 1
            omega
        _ ≤ num := hnumLower
    · push_cast
      rw [sub_add_cancel]
      exact hbelow.mp h
  · rename_i h
    refine eq_log_of_bounds (b := 2) (by decide) hr ?_ ?_
    · push_cast
      exact not_lt.mp fun hlt => h (hbelow.mpr hlt)
    · push_cast
      rw [div_lt_iff₀ hden']
      calc (num : ℚ) < (2 : ℚ) ^ ((num.log2 : Int) + 1) := hnumUpper
        _ = (2 : ℚ) ^ (estimate + 1) * (2 : ℚ) ^ (den.log2 : Int) := by
            rw [← zpow_add₀ htwo]
            congr 1
            omega
        _ ≤ (2 : ℚ) ^ (estimate + 1) * den := by gcongr

/-! ## Rounding to whole numbers -/

/-- A factor in numerator and denominator does not change what is rounded to. -/
theorem roundHalfEven_mul_left {k : Nat} (hk : 0 < k) (num den : Nat) :
    roundHalfEven (k * num) (k * den) = roundHalfEven num den := by
  have hleft : ∀ a b : Nat, 2 * (k * a) < k * b ↔ 2 * a < b := fun a b => by
    rw [Nat.mul_left_comm]
    exact Nat.mul_lt_mul_left hk
  have hright : ∀ a b : Nat, k * b < 2 * (k * a) ↔ b < 2 * a := fun a b => by
    rw [Nat.mul_left_comm]
    exact Nat.mul_lt_mul_left hk
  simp only [roundHalfEven, Nat.mul_div_mul_left _ _ hk, Nat.mul_mod_mul_left, hleft, hright]

theorem roundHalfEven_congr {num den num' den' : Nat} (hden : 0 < den) (hden' : 0 < den')
    (h : num * den' = num' * den) : roundHalfEven num den = roundHalfEven num' den' := by
  rw [← roundHalfEven_mul_left hden' num den, ← roundHalfEven_mul_left hden num' den',
    Nat.mul_comm den' num, h, Nat.mul_comm num' den, Nat.mul_comm den' den]

theorem roundHalfEven_mul {den : Nat} (hden : 0 < den) (n : Nat) :
    roundHalfEven (n * den) den = n := by
  have hrest : 2 * (n * den % den) < den := by simpa using hden
  rw [roundHalfEven, if_pos hrest, Nat.mul_div_cancel n hden]

/-! ## Rounding to the format -/

namespace Binary64

/-- Equal quotients are rounded to one number of the format: they have one logarithm, and so one
grid. -/
theorem ofQuotient_congr (negative : Bool) {num den num' den' : Nat} (hden : 0 < den)
    (hden' : 0 < den') (h : num * den' = num' * den) :
    ofQuotient negative num den = ofQuotient negative num' den' := by
  by_cases hnum : num = 0
  · have hnum' : num' = 0 := by
      rw [hnum, Nat.zero_mul] at h
      exact (Nat.mul_eq_zero.mp h.symm).resolve_right hden.ne'
    simp [ofQuotient, hnum, hnum']
  · have hnum' : num' ≠ 0 := by
      rintro rfl
      rw [Nat.zero_mul] at h
      exact hnum ((Nat.mul_eq_zero.mp h).resolve_right hden'.ne')
    have hvalue : (num : ℚ) / den = num' / den' := by
      rw [div_eq_div_iff (by positivity) (by positivity)]
      exact_mod_cast h
    have hlog : floorLog2 num den = floorLog2 num' den' := by
      rw [floorLog2_eq (Nat.pos_of_ne_zero hnum) hden,
        floorLog2_eq (Nat.pos_of_ne_zero hnum') hden', hvalue]
    -- both are scaled by one power of two, which leaves them equal
    have hround : ∀ p q : Nat, 0 < q →
        roundHalfEven (num * p) (den * q) = roundHalfEven (num' * p) (den' * q) := by
      intro p q hq
      refine roundHalfEven_congr (Nat.mul_pos hden hq) (Nat.mul_pos hden' hq) ?_
      calc num * p * (den' * q) = num * den' * (p * q) := by ring
        _ = num' * den * (p * q) := by rw [h]
        _ = num' * p * (den * q) := by ring
    simp only [ofQuotient, if_neg hnum, if_neg hnum', hlog, hround _ _ (power_pos Nat.two_pos _)]

/-- The exponent of a number other than zero is the one that its value is rounded at. -/
theorem max_log_eq {significand : Nat} {exponent : Int} (hpos : 0 < significand)
    (h : IsCanonical significand exponent) :
    max (Int.log 2 ((significand : ℚ) * 2 ^ exponent) - 52) (-1074) = exponent := by
  obtain ⟨hupper, hleast, -, hbits⟩ := h
  have hr : (0 : ℚ) < significand * 2 ^ exponent := by positivity
  have hlog : Int.log 2 ((significand : ℚ) * 2 ^ exponent) < exponent + 53 := by
    refine (Int.lt_zpow_iff_log_lt (by decide) hr).mp ?_
    push_cast
    rw [add_comm, zpow_add₀ two_ne_zero]
    gcongr
    exact_mod_cast hupper
  rcases hbits with hbits | hbits
  · have hlog' : exponent + 52 ≤ Int.log 2 ((significand : ℚ) * 2 ^ exponent) := by
      refine (Int.zpow_le_iff_le_log (by decide) hr).mp ?_
      push_cast
      rw [add_comm, zpow_add₀ two_ne_zero]
      gcongr
      exact_mod_cast hbits
    omega
  · omega

/-- A quotient whose value is a number of the format is rounded to that number. -/
theorem ofQuotient_exact (negative : Bool) {num den significand : Nat} {exponent : Int}
    (hpos : 0 < significand) (h : IsCanonical significand exponent) (hden : 0 < den)
    (hvalue : (num : ℚ) / den = significand * 2 ^ exponent) :
    ofQuotient negative num den = finite negative significand exponent h := by
  have hden' : (0 : ℚ) < den := by exact_mod_cast hden
  have hnum : 0 < num := by
    have hr : (0 : ℚ) < num / den := by rw [hvalue]; positivity
    exact_mod_cast (div_pos_iff_of_pos_right hden').mp hr
  have hexponent : max (floorLog2 num den - (precision - 1 : Nat)) minExponent = exponent := by
    rw [floorLog2_eq hnum hden, hvalue]
    exact max_log_eq hpos h
  -- on the grid of that number the quotient is whole
  have hscaled : num * power 2 (-exponent) = significand * (den * power 2 exponent) := by
    have hpower := power_div_power Nat.two_pos exponent
    have hneg : (0 : ℚ) < power 2 (-exponent) := by exact_mod_cast power_pos Nat.two_pos (-exponent)
    push_cast at hpower
    rw [← hpower, div_eq_iff hden'.ne'] at hvalue
    have hcross : (num : ℚ) * power 2 (-exponent) = significand * (den * power 2 exponent) := by
      rw [hvalue]
      field_simp
    exact_mod_cast hcross
  have hround :
      roundHalfEven (num * power 2 (-exponent)) (den * power 2 exponent) = significand := by
    rw [hscaled]
    exact roundHalfEven_mul (Nat.mul_pos hden (power_pos Nat.two_pos _)) significand
  -- the significand fits, so that rounding does not carry into the next power of two
  have hcarry : significand ≠ power 2 precision := h.1.ne
  simp only [ofQuotient, if_neg hnum.ne', hexponent, hround, if_neg hcarry, ofParts, dif_pos h]

/-! ## Reading decimals -/

/-- The place of the first digit of a decimal is the logarithm of its value. -/
theorem digitCount_add {coefficient : Nat} (hpos : 0 < coefficient) (exponent : Int) :
    digitCount coefficient + exponent = Int.log 10 ((coefficient : ℚ) * 10 ^ exponent) + 1 := by
  have hten : (10 : ℚ) ≠ 0 := by norm_num
  -- with d digits the coefficient lies in [10^(d-1), 10^d)
  have hcount : 0 < digitCount coefficient := Nat.length_toDigits_pos
  have hupper : coefficient < 10 ^ digitCount coefficient :=
    (Nat.length_toDigits_le_iff (by decide) hcount).mp le_rfl
  have hlower : 10 ^ (digitCount coefficient - 1) ≤ coefficient := by
    by_contra hlt
    by_cases hone : digitCount coefficient = 1
    · rw [hone] at hlt
      omega
    · have hle := (Nat.length_toDigits_le_iff (b := 10) (by decide)
        (show 0 < digitCount coefficient - 1 by omega)).mpr (not_le.mp hlt)
      have : digitCount coefficient ≤ digitCount coefficient - 1 := hle
      omega
  have hlog := eq_log_of_bounds (b := 10) (by decide)
    (r := (coefficient : ℚ) * 10 ^ exponent) (by positivity)
    (e := digitCount coefficient - 1 + exponent) ?_ ?_
  · omega
  · push_cast
    rw [zpow_add₀ hten]
    gcongr
    rw [← Nat.cast_pred hcount, zpow_natCast]
    exact_mod_cast hlower
  · push_cast
    have hplace : (digitCount coefficient : Int) - 1 + exponent + 1 =
        digitCount coefficient + exponent := by omega
    rw [hplace, zpow_add₀ hten]
    gcongr
    rw [zpow_natCast]
    exact_mod_cast hupper

/-- A decimal as the quotient of two naturals, of which one takes the power of ten. -/
theorem quotient_eq (c : Nat) (e : Int) :
    ((c * power 10 e : Nat) : ℚ) / (power 10 (-e) : Nat) = c * 10 ^ e := by
  have hpower := power_div_power (b := 10) (by decide) e
  push_cast at hpower ⊢
  rw [mul_div_assoc, hpower]

/-- Decimals of one value are read as one number, also where short cuts are taken. -/
theorem ofDecimal_congr (negative : Bool) {c c' : Nat} {e e' : Int}
    (h : (c : ℚ) * 10 ^ e = c' * 10 ^ e') :
    ofDecimal (.finite negative c e) = ofDecimal (.finite negative c' e') := by
  have hpow : ∀ e : Int, (10 : ℚ) ^ e ≠ 0 := fun e => by positivity
  by_cases hc : c = 0
  · have hc' : c' = 0 := by
      rw [hc, Nat.cast_zero, zero_mul] at h
      exact_mod_cast (mul_eq_zero.mp h.symm).resolve_right (hpow e')
    simp [ofDecimal, hc, hc']
  · have hc' : c' ≠ 0 := by
      rintro rfl
      rw [Nat.cast_zero, zero_mul] at h
      exact hc (by exact_mod_cast (mul_eq_zero.mp h).resolve_right (hpow e))
    -- the short cuts look only at the place of the first digit
    have hsize : (digitCount c : Int) + e = digitCount c' + e' := by
      rw [digitCount_add (Nat.pos_of_ne_zero hc), digitCount_add (Nat.pos_of_ne_zero hc'), h]
    have hquotient : ofQuotient negative (c * power 10 e) (power 10 (-e)) =
        ofQuotient negative (c' * power 10 e') (power 10 (-e')) := by
      have hpos : ∀ e : Int, 0 < power 10 (-e) := fun e => power_pos (by decide) (-e)
      have hneg : ∀ e : Int, ((power 10 (-e) : Nat) : ℚ) ≠ 0 := fun e => by
        exact_mod_cast (hpos e).ne'
      rw [← quotient_eq c e, ← quotient_eq c' e', div_eq_div_iff (hneg e) (hneg e')] at h
      exact ofQuotient_congr negative (hpos e) (hpos e') (by exact_mod_cast h)
    simp only [ofDecimal, hc, hc', hsize, hquotient]

/-- Numbers of the format other than zero lie between the least power of two and the greatest. -/
theorem bounds_of_isCanonical {significand : Nat} {exponent : Int} (hpos : 0 < significand)
    (h : IsCanonical significand exponent) :
    (2 : ℚ) ^ (-1074 : Int) ≤ significand * 2 ^ exponent ∧
      (significand : ℚ) * 2 ^ exponent < 2 ^ (1024 : Int) := by
  obtain ⟨hupper, hleast, hgreatest, -⟩ := h
  have hone : (1 : ℚ) ≤ significand := by exact_mod_cast hpos
  have hsignificand : (significand : ℚ) < 2 ^ (53 : Int) := by exact_mod_cast hupper
  constructor
  · calc (2 : ℚ) ^ (-1074 : Int) ≤ 2 ^ exponent := zpow_le_zpow_right₀ (by norm_num) hleast
      _ ≤ significand * 2 ^ exponent := le_mul_of_one_le_left (by positivity) hone
  · calc (significand : ℚ) * 2 ^ exponent < 2 ^ (53 : Int) * 2 ^ exponent := by gcongr
      _ ≤ 2 ^ (53 : Int) * 2 ^ (971 : Int) := by gcongr; norm_num
      _ = 2 ^ (1024 : Int) := by rw [← zpow_add₀ two_ne_zero]; norm_num

/-- The least number is no less than the least power of ten for which a decimal is rounded. -/
theorem ten_zpow_le_two_zpow : ((10 : Nat) : ℚ) ^ (-324 : Int) ≤ (2 : ℚ) ^ (-1074 : Int) := by
  have h : 2 ^ 1074 ≤ 10 ^ 324 := by decide +kernel
  rw [zpow_neg, zpow_neg]
  refine inv_anti₀ (by positivity) ?_
  exact_mod_cast h

/-- A decimal that is taken for an infinity without a look at its digits is above all numbers. -/
theorem two_zpow_lt_ten_zpow : (2 : ℚ) ^ (1024 : Int) < ((10 : Nat) : ℚ) ^ (309 : Int) := by
  have h : 2 ^ 1024 < 10 ^ 309 := by decide +kernel
  exact_mod_cast h

/-- A decimal whose value is a number of the format is read as that number. -/
theorem ofDecimal_exact (negative : Bool) {c significand : Nat} {e exponent : Int}
    (h : IsCanonical significand exponent)
    (hvalue : (c : ℚ) * 10 ^ e = significand * 2 ^ exponent) :
    ofDecimal (.finite negative c e) = finite negative significand exponent h := by
  by_cases hzero : significand = 0
  · -- zero is kept with the least power of two
    subst hzero
    have hexponent : exponent = -1074 := h.2.2.2.resolve_left (by decide)
    have hc : c = 0 := by
      rw [Nat.cast_zero, zero_mul] at hvalue
      exact_mod_cast (mul_eq_zero.mp hvalue).resolve_right (by positivity)
    subst hexponent hc
    rfl
  · have hpos : 0 < significand := Nat.pos_of_ne_zero hzero
    obtain ⟨hleast, hgreatest⟩ := bounds_of_isCanonical hpos h
    rw [← hvalue] at hleast hgreatest
    have hr : (0 : ℚ) < c * 10 ^ e := lt_of_lt_of_le (by positivity) hleast
    have hc : c ≠ 0 := by
      rintro rfl
      simp at hr
    -- the first digit stands at a place where no short cut is taken
    have hsize := digitCount_add (Nat.pos_of_ne_zero hc) e
    have hlower : (-324 : Int) ≤ Int.log 10 ((c : ℚ) * 10 ^ e) :=
      (Int.zpow_le_iff_le_log (by decide) hr).mp (ten_zpow_le_two_zpow.trans hleast)
    have hupper : Int.log 10 ((c : ℚ) * 10 ^ e) < (309 : Int) :=
      (Int.lt_zpow_iff_log_lt (by decide) hr).mp (hgreatest.trans two_zpow_lt_ten_zpow)
    have hsmall : ¬ (digitCount c : Int) + e < -330 := by omega
    have hlarge : ¬ 310 < (digitCount c : Int) + e := by omega
    have hquotient := ofQuotient_exact negative hpos h (power_pos (b := 10) (by decide) (-e))
      ((quotient_eq c e).trans hvalue)
    simp [ofDecimal, hc, hsmall, hlarge, hquotient]

/-! ## Signs -/

def withSign (negative : Bool) : Binary64 → Binary64
  | finite _ significand exponent canonical => finite negative significand exponent canonical
  | infinite _ => infinite negative
  | nan => nan

/-- The sign takes no part in rounding. -/
theorem ofQuotient_withSign (negative negative' : Bool) (num den : Nat) :
    (ofQuotient negative num den).withSign negative' = ofQuotient negative' num den := by
  have hparts : ∀ significand exponent, (ofParts negative significand exponent).withSign negative' =
      ofParts negative' significand exponent := by
    intro significand exponent
    unfold ofParts
    split <;> rfl
  simp only [ofQuotient]
  split
  · rfl
  · exact hparts _ _

/-- The sign of a decimal is that of the number that it is read as, and decides nothing else. -/
theorem ofDecimal_withSign (negative negative' : Bool) (c : Nat) (e : Int) :
    (ofDecimal (.finite negative c e)).withSign negative' = ofDecimal (.finite negative' c e) := by
  simp only [ofDecimal]
  split
  · rfl
  · split
    · rfl
    · exact ofQuotient_withSign negative negative' _ _

end Binary64

end SqlTemplate
