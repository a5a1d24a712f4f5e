import SqlTemplate.Proofs.Number.Spelling
import SqlTemplate.Proofs.Truncation

/-!
# Literals of whole numbers

What is written where a whole number is asked for is a canonical numeral: ASCII digits without a
zero in front of others, and a minus in front of them if the number is negative. A text with such a
numeral between blanks is an argument itself, and it is written as the same numeral again
(`literal_integer_reads_back`): read as a plain numeral it gives the number back, as long as there
are no more digits than may be written.
-/

namespace SqlTemplate

/-- A text with blanks before and behind it. -/
inductive Text.Padded (s : Text) : Text → Prop
  | between {before after : Text} (hbefore : ∀ c ∈ before, Text.isBlank c)
    (hafter : ∀ c ∈ after, Text.isBlank c) : Padded s (before ++ s ++ after)

/-- A whole number as it is written. -/
structure CanonicalNumeral where
  negative : Bool
  digits : Text
  isDigits : IsDigits digits
  /-- No zero stands in front of other digits, and no minus in front of zero. -/
  zero : digits.head? = some '0' → digits = ['0'] ∧ negative = false

namespace CanonicalNumeral

variable (numeral : CanonicalNumeral)

def text : Text :=
  (if numeral.negative then ['-'] else []) ++ numeral.digits

/-- What the numeral is worth. -/
def value : Int :=
  signed numeral.negative (Nat.ofDigitChars 10 numeral.digits 0)

end CanonicalNumeral

/-! ## Writing -/

/-- The digits of zero are the only ones that start with a zero. -/
theorem eq_zero_of_head?_ofNat {n : Nat} (h : (Text.ofNat n).head? = some '0') : n = 0 := by
  induction n using Nat.strong_induction_on with
  | _ n ih =>
    by_cases hn : n < 10
    · rw [Text.ofNat, Nat.toDigits_of_lt_base hn] at h
      exact Nat.digitChar_eq_zero.mp (Option.some.inj h)
    · -- the first digit is that of a tenth of the number
      rw [Text.ofNat, Nat.toDigits_of_base_le (by decide) (not_lt.mp hn),
        List.head?_append_of_ne_nil _ Nat.toDigits_ne_nil] at h
      have hquotient := ih (n / 10) (by omega) h
      omega

/-- The numeral that a whole number is written as. -/
def CanonicalNumeral.ofInt (n : Int) : CanonicalNumeral where
  negative := n < 0
  digits := Text.ofNat n.natAbs
  isDigits := isDigits_ofNat _
  zero h := by
    rw [eq_zero_of_head?_ofNat h]
    have hn : n = 0 := Int.natAbs_eq_zero.mp (eq_zero_of_head?_ofNat h)
    simp [hn, Text.ofNat]

namespace CanonicalNumeral

theorem text_ofInt (n : Int) : (ofInt n).text = Text.ofInt n := by
  cases n with
  | ofNat n => simp [text, ofInt, Text.ofInt]
  | negSucc n => simp [text, ofInt, Text.ofInt, Int.negSucc_lt_zero, Int.natAbs_negSucc]

theorem value_ofInt (n : Int) : (ofInt n).value = n := by
  rw [value, ofInt, ofDigitChars_ofNat, signed_natAbs]

end CanonicalNumeral

/-- A number can be written exactly if it has no more digits than the limit. -/
theorem isWritable_iff {n : Int} : isWritable n = true ↔ digitCount n.natAbs ≤ digitLimit := by
  have hpower : power 10 digitLimit = 10 ^ digitLimit := by
    rw [power, Int.toNat_natCast, Nat.pow_eq]
  rw [isWritable, decide_eq_true_iff, hpower, digitCount,
    Nat.length_toDigits_le_iff (by decide) (by decide)]

/-- An argument is written where a whole number is asked for if it is read as one that has few
enough digits, and then it is written as that number. -/
theorem Builder.literal_integer_eq_ok_iff {builder : Builder} {argument : Argument} {s : Text} :
    (builder.literal (some .integer) argument).result = .ok s ↔
      ∃ n, argument.toInt = .ok n ∧ isWritable n = true ∧ Text.ofInt n = s := by
  have hint : ∀ n, (builder.escaper.render (.int n)).result = .ok s ↔
      isWritable n = true ∧ Text.ofInt n = s := by
    intro n
    rw [Escaper.render, Escaper.intLiteral]
    split <;> rename_i hn
    · simp [hn]
    · simp [hn]
  cases hread : argument.toInt with
  | ok n => simp [Argument.literal_integer_eq hread, hint]
  | error error =>
    rw [literal, Traced.result_bind, Traced.result_ofQuery, hread]
    constructor
    · rintro ⟨⟩
    · rintro ⟨_, ⟨⟩, _⟩

/-! ## Reading -/

theorem digitValue?_of_isDigit {c : Char} (h : c.isDigit) :
    Text.digitValue? c = some (c.toNat - '0'.toNat) := by
  rw [isDigit_iff] at h
  have hfirst : Text.digitZeros.find? (fun first => first ≤ c.toNat && c.toNat < first + 10) =
      some 48 := by
    refine List.find?_cons_of_pos ?_
    simp only [Bool.and_eq_true, decide_eq_true_eq]
    omega
  rw [Text.digitValue?, hfirst]
  rfl

/-- ASCII digits are digits of some script, and worth what they are worth in ASCII. -/
theorem Digit.exists_of_isDigit {s : Text} (h : ∀ c ∈ s, c.isDigit) :
    ∃ digits : List Digit, Digit.text digits = s ∧
      Digit.number digits = Nat.ofDigitChars 10 s 0 := by
  -- digit by digit, and the numbers are then sums of the same values
  have hvalues : ∃ digits : List Digit, Digit.text digits = s ∧
      digits.map Digit.value = s.map fun c => c.toNat - '0'.toNat := by
    induction s with
    | nil => exact ⟨[], rfl, rfl⟩
    | cons c s ih =>
      obtain ⟨hc, hs⟩ := List.forall_mem_cons.mp h
      obtain ⟨digits, htext, hvalues⟩ := ih hs
      have hdigit := digitValue?_of_isDigit hc
      refine ⟨⟨c, by rw [hdigit]; rfl⟩ :: digits, congrArg (c :: ·) htext, ?_⟩
      rw [List.map_cons, List.map_cons, hvalues, Digit.value]
      simp only [hdigit, Option.get_some]
  obtain ⟨digits, htext, hvalues⟩ := hvalues
  refine ⟨digits, htext, ?_⟩
  rw [← Numeral.ofDigits_values, hvalues, Numeral.ofDigits, List.foldl_map,
    Nat.ofDigitChars_eq_foldl]

namespace CanonicalNumeral

variable (numeral : CanonicalNumeral)

/-- A canonical numeral is a plain one without a point. -/
theorem exists_plainNumeral : ∃ plain : PlainNumeral, plain.text = numeral.text ∧
    plain.fraction = none ∧ plain.digitCount = numeral.digits.length ∧
    plain.value = numeral.value := by
  obtain ⟨digits, htext, hnumber⟩ := Digit.exists_of_isDigit numeral.isDigits.2
  have hne : digits ≠ [] := by
    rintro rfl
    exact numeral.isDigits.1 htext.symm
  -- a canonical numeral never has a plus
  refine ⟨⟨if numeral.negative then .minus else .absent, digits, hne, none⟩, ?_, rfl, ?_, ?_⟩
  · rw [PlainNumeral.text, PlainNumeral.body, text, htext]
    cases numeral.negative <;> simp [Sign.text]
  · rw [PlainNumeral.digitCount, ← htext]
    simp [PlainNumeral.fractionDigits, Digit.text]
  · rw [PlainNumeral.value, value, hnumber]
    cases numeral.negative <;>
      simp [PlainNumeral.fractionDigits, Digit.number, Sign.negative, signed]

theorem isBlank_eq_false : ∀ c ∈ numeral.text, Text.isBlank c = false := by
  intro c hc
  rcases List.mem_append.mp hc with hsign | hdigit
  · split at hsign
    · rw [List.mem_singleton.mp hsign]
      decide
    · cases hsign
  · have hrange := isDigit_iff.mp (numeral.isDigits.2 c hdigit)
    simp only [Text.isBlank, Bool.or_eq_false_iff, Bool.and_eq_false_iff, beq_eq_false_iff_ne,
      decide_eq_false_iff_not]
    omega

/-- A canonical numeral with few enough digits is read exactly, with any blanks around it. -/
theorem textToInt_of_padded (hdigits : numeral.digits.length ≤ digitLimit) {t : Text}
    (ht : numeral.text.Padded t) : Argument.textToInt t = .ok numeral.value := by
  obtain ⟨hbefore, hafter⟩ := ht
  obtain ⟨plain, htext, hpoint, hcount, hvalue⟩ := numeral.exists_plainNumeral
  have hne : numeral.text ≠ [] := List.append_ne_nil_of_right_ne_nil _ numeral.isDigits.1
  have hstrip := Text.strip_between hne numeral.isBlank_eq_false hbefore hafter
  rw [Argument.textToInt_of_whole (hstrip.trans htext.symm) (hcount ▸ hdigits) hpoint, hvalue,
    wholePart_intCast]

end CanonicalNumeral

/-- **Literals of whole numbers.** What an argument is written as where a whole number is asked for
is a canonical numeral of the number that it is read as, and a text with this numeral between blanks
is written as the numeral again. So a number with few enough digits is written alike, whether it is
given as a number or as a text. -/
theorem literal_integer_reads_back (builder : Builder) :
    (∀ (argument : Argument) (s : Text),
      (builder.literal (some .integer) argument).result = .ok s →
        (∃ numeral : CanonicalNumeral,
          numeral.text = s ∧ argument.toInt = .ok numeral.value) ∧
        ∀ (member : Option Member) (t : Text), s.Padded t →
          (builder.literal (some .integer) (.text member t)).result = .ok s) ∧
    ∀ n : Int, digitCount n.natAbs ≤ digitLimit →
      ∀ (member member' : Option Member) (t : Text), (Text.ofInt n).Padded t →
        (builder.literal (some .integer) (.int member n)).result = .ok (Text.ofInt n) ∧
        (builder.literal (some .integer) (.text member' t)).result = .ok (Text.ofInt n) := by
  -- both parts come from this: the numeral of a number is read as the number, whatever blanks there
  -- are around it
  have hreads : ∀ n : Int, isWritable n = true → ∀ (member : Option Member) (t : Text),
      (Text.ofInt n).Padded t →
        (builder.literal (some .integer) (.text member t)).result = .ok (Text.ofInt n) := by
    intro n hn member t ht
    rw [← CanonicalNumeral.text_ofInt] at ht
    have hread := (CanonicalNumeral.ofInt n).textToInt_of_padded (isWritable_iff.mp hn) ht
    rw [CanonicalNumeral.value_ofInt] at hread
    exact Builder.literal_integer_eq_ok_iff.mpr ⟨n, hread, hn, rfl⟩
  constructor
  · intro argument s h
    obtain ⟨n, hread, hn, rfl⟩ := Builder.literal_integer_eq_ok_iff.mp h
    refine ⟨⟨.ofInt n, CanonicalNumeral.text_ofInt n, ?_⟩, hreads n hn⟩
    rw [CanonicalNumeral.value_ofInt, hread]
  · intro n hdigits member member' t ht
    have hn := isWritable_iff.mpr hdigits
    exact ⟨Builder.literal_integer_eq_ok_iff.mpr ⟨n, rfl, hn, rfl⟩, hreads n hn member' t ht⟩

/-- A text that is no canonical numeral, and the numeral that it is written as. -/
theorem literal_integer_reads_back_of_padded :
    let builder : Builder := { escaper := .ofDialect .mysql none }
    let literal (argument : Argument) := (builder.literal (some .integer) argument).result
    let s : Text := ['-', '1', '2']
    let padded : Text := ['\u00a0'] ++ s ++ ['\t', '\n']
    literal (.ofText " -0_0١٢ ".toList) = .ok s ∧ s.Padded padded ∧
      literal (.ofText padded) = .ok s ∧ digitCount (-12 : Int).natAbs ≤ digitLimit ∧
      literal (.ofInt (-12)) = .ok s := by
  intro builder literal s padded
  have hpadded : s.Padded padded :=
    .between (List.forall_mem_singleton.mpr rfl)
      (List.forall_mem_cons.mpr ⟨rfl, List.forall_mem_singleton.mpr rfl⟩)
  have hdigits : digitCount (-12 : Int).natAbs ≤ digitLimit := by decide
  have hread : (Argument.ofText " -0_0١٢ ".toList).toInt = .ok (-12) := by decide +kernel
  have hliteral : literal (.ofText " -0_0١٢ ".toList) = .ok s :=
    Builder.literal_integer_eq_ok_iff.mpr ⟨-12, hread, isWritable_iff.mpr hdigits, rfl⟩
  obtain ⟨hreads, hnumbers⟩ := literal_integer_reads_back builder
  exact ⟨hliteral, hpadded, (hreads _ s hliteral).2 none padded hpadded, hdigits,
    (hnumbers (-12) hdigits none none padded hpadded).1⟩

end SqlTemplate
