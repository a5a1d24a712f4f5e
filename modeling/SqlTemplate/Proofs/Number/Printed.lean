import SqlTemplate.Proofs.Number.Rounding
import SqlTemplate.Proofs.Number.Spelling

/-!
# Printed floats are read back

A finite number is printed as the text of a spelling, and the decimal that the spelling writes is
read as that number (`Binary64.exists_spelling`). The printer tries one length of digits after the
other and keeps what reads back, so that nothing has to be known of the lengths that fail; where all
of them do it prints the number exactly, and exact decimals are read back as well.
-/

namespace SqlTemplate.Binary64

theorem ofDecimal_exactDecimal {significand : Nat} {exponent : Int}
    (h : IsCanonical significand exponent) :
    ofDecimal (exactDecimal significand exponent) = finite false significand exponent h := by
  refine ofDecimal_exact false h ?_
  -- on either side of zero one of the two powers is 1
  rcases le_or_gt 0 exponent with hsign | hsign
  · obtain ⟨n, rfl⟩ := Int.eq_ofNat_of_zero_le hsign
    have hmin : min (n : Int) 0 = 0 := min_eq_right hsign
    have htwo : power 2 n = 2 ^ n := rfl
    have hfive : power 5 (-n) = 1 := by
      rw [power, show (-(n : Int)).toNat = 0 by omega, Nat.pow_eq, pow_zero]
    rw [hmin, htwo, hfive]
    push_cast
    simp
  · obtain ⟨n, rfl⟩ : ∃ n : Nat, exponent = -n := ⟨exponent.natAbs, by omega⟩
    have hmin : min (-(n : Int)) 0 = -n := min_eq_left hsign.le
    have htwo : power 2 (-n) = 1 := by
      rw [power, show (-(n : Int)).toNat = 0 by omega, Nat.pow_eq, pow_zero]
    have hfive : power 5 (- -(n : Int)) = 5 ^ n := by rw [neg_neg]; rfl
    rw [hmin, htwo, hfive]
    push_cast
    rw [zpow_neg, zpow_neg, zpow_natCast, zpow_natCast, mul_one, mul_assoc,
      show (10 : ℚ) = 5 * 2 by norm_num, mul_pow]
    field_simp

/-- What is found on a grid of decimals is a decimal that is read as the number. -/
theorem of_nearestOnGrid? {significand : Nat} {exponent scale : Int} {d : Decimal}
    (h : nearestOnGrid? significand exponent scale = some d) :
    (∃ c, d = .finite false c scale) ∧ ofDecimal d = ofParts false significand exponent := by
  have hmem := List.mem_of_find?_eq_some h
  have hread := List.find?_some h
  obtain ⟨c, -, hc⟩ := List.mem_map.mp hmem
  exact ⟨⟨c, hc.symm⟩, eq_of_beq hread⟩

/-- The shortest decimal is read as the number. -/
theorem exists_shortest {significand : Nat} {exponent : Int}
    (h : IsCanonical significand exponent) :
    ∃ (c : Nat) (scale : Int), shortest significand exponent = .finite false c scale ∧
      ofDecimal (.finite false c scale) = finite false significand exponent h := by
  unfold shortest
  simp only
  generalize hfound : List.findSome? _ (List.range' 1 maxDigits) = found
  cases found with
  | none => exact ⟨_, _, rfl, ofDecimal_exactDecimal h⟩
  | some d =>
    obtain ⟨n, -, hgrid⟩ := List.exists_of_findSome?_eq_some hfound
    obtain ⟨⟨c, rfl⟩, hread⟩ := of_nearestOnGrid? hgrid
    exact ⟨c, _, rfl, by rw [hread, ofParts, dif_pos h]⟩

/-- A number is printed as its shortest decimal is laid out, with the sign of the number. -/
theorem toText_eq_layout (negative : Bool) {significand c : Nat} {exponent scale : Int}
    (h : IsCanonical significand exponent)
    (hshortest : shortest significand exponent = .finite false c scale) :
    (finite negative significand exponent h).toText = layout (.finite negative c scale) := by
  unfold toText
  simp only [hshortest]

/-- A finite number is printed as the text of a spelling that is no whole number, and that is read
as the number. -/
theorem exists_spelling (negative : Bool) {significand : Nat} {exponent : Int}
    (h : IsCanonical significand exponent) :
    ∃ n : Spelling, n.WellFormed ∧ n.isWhole = false ∧
      n.text = (finite negative significand exponent h).toText ∧
      ofDecimal n.decimal = finite negative significand exponent h := by
  obtain ⟨c, scale, hshortest, hread⟩ := exists_shortest h
  obtain ⟨c', e', hdecimal, hvalue⟩ := Spelling.decimal_ofLayout negative c scale
  refine ⟨.ofLayout negative c scale, Spelling.wellFormed_ofLayout _ _ _,
    Spelling.isWhole_ofLayout _ _ _, ?_, ?_⟩
  · exact (Spelling.text_ofLayout negative c scale).trans
      (toText_eq_layout negative h hshortest).symm
  · rw [hdecimal, ofDecimal_congr negative hvalue, ← ofDecimal_withSign false, hread]
    rfl

end SqlTemplate.Binary64
