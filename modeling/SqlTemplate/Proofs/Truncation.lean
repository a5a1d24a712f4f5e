import SqlTemplate.Proofs.Leaves
import SqlTemplate.Proofs.Number.PlainNumeral
import SqlTemplate.Proofs.Number.WholePart
import SqlTemplate.Query

/-!
# Whole numbers from arguments

An argument can denote a rational number: as a truth value, as a number of one of four formats, or
as a text that writes a plain numeral. Where a whole number is asked for, the fraction is cut off
(`toInt_truncates`). A numeral with a point is rounded to a float before, and it is the float that
loses its fraction.
-/

namespace SqlTemplate

namespace Argument

/-- The argument denotes the number. A text denotes one if it is a plain numeral between blanks,
with few enough digits to be read. -/
inductive Denotes : Argument → ℚ → Prop
  | bool (value : Bool) : Denotes (.bool value) (value.toInt : Int)
  | int (member : Option Member) (value : Int) : Denotes (.int member value) value
  | float (member : Option Member) {value : Binary64} {q : ℚ} (hvalue : value.toRat? = some q) :
    Denotes (.float member value) q
  | decimal {value : Decimal} {q : ℚ} (hvalue : value.toRat? = some q) : Denotes (.decimal value) q
  | fraction (value : ℚ) : Denotes (.fraction value) value
  | text (member : Option Member) {s : Text} {n : PlainNumeral} (hs : s.strip = n.text)
    (hdigits : n.digitCount ≤ digitLimit) : Denotes (.text member s) n.value

/-- Whether the argument is a text with a point in it. -/
def hasPoint : Argument → Bool
  | text _ s => s.strip.contains '.'
  | _ => false

variable {argument : Argument} {q : ℚ} {s : Text} {n : PlainNumeral}

theorem textToInt_of_whole (hs : s.strip = n.text) (hdigits : n.digitCount ≤ digitLimit)
    (hpoint : n.fraction = none) : textToInt s = .ok (wholePart n.value) := by
  obtain ⟨m, hread, hvalue⟩ := n.integer?_text hpoint
  rw [textToInt, hs, hread, ← hvalue, wholePart_intCast, Option.filter_some,
    if_pos (decide_eq_true hdigits)]

/-- A numeral with a point is read as the nearest float. -/
theorem textToInt_of_point {digits : List Digit} (hs : s.strip = n.text)
    (hpoint : n.fraction = some digits) :
    ∃ d : Decimal, d.toRat? = some n.value ∧ Numeral.decimal? s.strip = some d ∧
      ∀ m, textToInt s = .ok m ↔ (Binary64.ofDecimal d).truncate? = some m := by
  obtain ⟨d, hread, hvalue⟩ := n.exists_decimal
  refine ⟨d, hvalue, hs ▸ hread, fun m => ?_⟩
  rw [textToInt, hs, n.integer?_text_of_point hpoint, Option.filter_none]
  simp only
  rw [hread]
  simp only
  cases (Binary64.ofDecimal d).truncate? with
  | none => simp
  | some value => simp

namespace Denotes

theorem hasPoint_text (hs : s.strip = n.text) (member : Option Member) :
    (Argument.text member s).hasPoint = n.fraction.isSome := by
  rw [Bool.eq_iff_iff, hasPoint, hs, List.contains_iff_mem]
  exact n.mem_text_point

theorem toInt_of_no_point (h : argument.Denotes q) (hpoint : argument.hasPoint = false) :
    argument.toInt = .ok (wholePart q) := by
  cases h with
  | bool value => exact congrArg Except.ok (wholePart_intCast _).symm
  | int member value => exact congrArg Except.ok (wholePart_intCast _).symm
  | float member hvalue => rw [toInt, Binary64.truncate?_eq, hvalue]; rfl
  | decimal hvalue => rw [toInt, Decimal.truncate?_eq, hvalue]; rfl
  | fraction => exact congrArg Except.ok (wholePart_eq_tdiv q).symm
  | text member hs hdigits =>
    rw [hasPoint_text hs, Option.isSome_eq_false_iff, Option.isNone_iff_eq_none] at hpoint
    exact textToInt_of_whole hs hdigits hpoint

/-- What is read from a text with a point, which is a decimal first. -/
theorem exists_decimal (h : argument.Denotes q) (hpoint : argument.hasPoint = true) :
    ∃ d : Decimal, d.toRat? = some q ∧ argument.toFloat = .ok (.ofDecimal d) ∧
      ∀ m, argument.toInt = .ok m ↔ (Binary64.ofDecimal d).truncate? = some m := by
  cases h with
  | text member hs hdigits =>
    rw [hasPoint_text hs] at hpoint
    obtain ⟨digits, hfraction⟩ := Option.isSome_iff_exists.mp hpoint
    obtain ⟨d, hvalue, hread, htoInt⟩ := textToInt_of_point hs hfraction
    refine ⟨d, hvalue, ?_, htoInt⟩
    rw [toFloat, hread]
  | bool | int | float | decimal | fraction => cases hpoint

end Denotes

/-- The literal of an argument that is read as a whole number. -/
theorem literal_integer_eq {builder : Builder} {m : Int} (h : argument.toInt = .ok m) :
    builder.literal (some .integer) argument = builder.escaper.render (.int m) := by
  rw [Builder.literal, h, Traced.bind_of_silent rfl rfl]
  exact Escaper.escapeValue_eq rfl

end Argument

/-- **Where a fraction is cut off.** An argument that denotes a number, other than by a numeral with
a point, is read as the whole part of the number and written as that; so all such arguments for one
number are written alike. A numeral with a point is read as the whole part of a float, if that is
finite. No float is nearer to the number, but its whole part may be another one; it is the same if
the number can be written with few digits. -/
theorem toInt_truncates {argument : Argument} {q : ℚ} (h : argument.Denotes q) :
    (argument.hasPoint = false →
      argument.toInt = .ok (wholePart q) ∧ ∀ builder : Builder,
        builder.literal (some .integer) argument = builder.escaper.render (.int (wholePart q))) ∧
    (argument.hasPoint = true → ∃ x, argument.toFloat = .ok x ∧
      (∀ m, argument.toInt = .ok m ↔ ∃ r, x.toRat? = some r ∧ m = wholePart r) ∧
      (∀ (r r' : ℚ) (y : Binary64), x.toRat? = some r → y.toRat? = some r' →
        |q - r| ≤ |q - r'|) ∧
      ∀ (c : Int) (k : Nat), q * 10 ^ k = c → |c| < 2 ^ 53 →
        argument.toInt = .ok (wholePart q)) := by
  constructor
  · intro hpoint
    have hwhole := h.toInt_of_no_point hpoint
    exact ⟨hwhole, fun builder => Argument.literal_integer_eq hwhole⟩
  · -- the decimal that the text writes is rounded first
    intro hpoint
    obtain ⟨d, hd, hfloat, htoInt⟩ := h.exists_decimal hpoint
    refine ⟨_, hfloat, fun m => ?_, fun r r' y hr hr' => ?_, fun c k hq hc => ?_⟩
    · rw [htoInt, Binary64.truncate?_eq, Option.map_eq_some_iff]
      exact exists_congr fun r => and_congr_right fun _ => eq_comm
    · exact Binary64.ofDecimal_nearest hd hr hr'
    · exact (htoInt _).mpr (Binary64.truncate?_ofDecimal hd hq hc)

/-- A numeral in two scripts, and the decimal of its value. -/
theorem toInt_truncates_of_tenths :
    let n : PlainNumeral := ⟨.minus, [⟨'1', by decide⟩], List.cons_ne_nil _ _,
      some [⟨'٩', by decide⟩]⟩
    let argument : Argument := .ofText " -1.٩\n".toList
    let decimal : Argument := .decimal (.finite true 19 (-1))
    argument.Denotes n.value ∧ argument.hasPoint = true ∧ argument.toInt = .ok (-1) ∧
      decimal.Denotes n.value ∧ decimal.toInt = .ok (-1) := by
  intro n argument decimal
  have hvalue : n.value = -19 / 10 := by
    have hwhole : Digit.number n.whole = 1 := by rfl
    have hfraction : Digit.number n.fractionDigits = 9 := by rfl
    rw [PlainNumeral.value, hwhole, hfraction]
    norm_num [n, Sign.negative, signed, PlainNumeral.fractionDigits]
  have hpart : wholePart n.value = -1 := by
    rw [hvalue, wholePart, if_neg (by norm_num), Int.ceil_eq_iff]
    norm_num
  have htext : argument.Denotes n.value := .text none (by rfl) (by decide)
  have hdecimal : decimal.Denotes n.value := by
    refine .decimal (congrArg some ?_)
    rw [hvalue]
    norm_num [signed]
  have hpoint : argument.hasPoint = true := by rfl
  obtain ⟨x, -, -, -, hfew⟩ := (toInt_truncates htext).2 hpoint
  have hread := hfew (-19) 1 (by rw [hvalue]; norm_num) (by decide)
  rw [hpart] at hread
  refine ⟨htext, hpoint, hread, hdecimal, ?_⟩
  rw [((toInt_truncates hdecimal).1 rfl).1, hpart]

/-- A text just below one is read as one, because one is the nearest float. The decimal and the
fraction of the same number are read as zero. -/
theorem toInt_of_rounded_text :
    let n : PlainNumeral := ⟨.absent, [⟨'0', by decide⟩], List.cons_ne_nil _ _,
      some (List.replicate 17 ⟨'9', by decide⟩)⟩
    let argument : Argument := .ofText "0.99999999999999999".toList
    argument.Denotes n.value ∧ wholePart n.value = 0 ∧ argument.toInt = .ok 1 ∧
      (Argument.decimal (.finite false (10 ^ 17 - 1) (-17))).toInt = .ok 0 ∧
      (Argument.fraction n.value).toInt = .ok 0 := by
  intro n argument
  have hvalue : n.value = (10 ^ 17 - 1) / 10 ^ 17 := by
    have hwhole : Digit.number n.whole = 0 := by rfl
    have hfraction : Digit.number n.fractionDigits = 10 ^ 17 - 1 := by decide +kernel
    rw [PlainNumeral.value, hwhole, hfraction]
    norm_num [n, Sign.negative, signed, PlainNumeral.fractionDigits]
  have hpart : wholePart n.value = 0 := by
    rw [hvalue, wholePart, if_pos (by norm_num), Int.floor_eq_iff]
    norm_num
  refine ⟨.text none (by rfl) (by decide), hpart, by decide +kernel, by decide +kernel, ?_⟩
  rw [(Argument.Denotes.fraction n.value).toInt_of_no_point rfl, hpart]

end SqlTemplate
