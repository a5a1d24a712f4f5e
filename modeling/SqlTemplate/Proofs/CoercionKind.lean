import SqlTemplate.Argument.Coerce

/-!
# The kind that a coercion error names

An argument that is no whole number is refused with a coercion error, which names a kind. The caller
passed an argument, so its own kind is what the error should name, a text of an enumeration being a
text like any other (`Argument.coercionKind`). It does so for every argument but one sort of text
(`toInt_error_kind`). A text that writes an infinity, a NaN, or a number beyond the largest float is
turned into a float on the way, and the error names the kind of the float
(`toInt_error_kind_of_infinity`).
-/

namespace SqlTemplate

theorem Binary64.truncate?_eq_none_iff {x : Binary64} :
    x.truncate? = none ↔ x.isFinite = false := by
  cases x <;> simp [truncate?, isFinite]

namespace Argument

/-- The kind that a caller knows an argument by. -/
def coercionKind : Argument → String
  | text .. => "str"
  | argument => argument.kind

/-- The argument is a text that is read as an infinity or as NaN. -/
def IsNonFiniteText (argument : Argument) : Prop :=
  ∃ member s x, argument = text member s ∧ argument.toFloat = .ok x ∧ x.isFinite = false

variable {argument : Argument} {member : Option Member} {s : Text} {error : QueryError}

theorem isNonFiniteText_text_iff : (text member s).IsNonFiniteText ↔
    ∃ d, Numeral.decimal? s.strip = some d ∧ (Binary64.ofDecimal d).isFinite = false := by
  constructor
  · rintro ⟨_, _, x, ⟨⟩, hread, hx⟩
    rw [toFloat] at hread
    split at hread
    · rename_i d hd
      cases hread
      exact ⟨d, hd, hx⟩
    · cases hread
  · rintro ⟨d, hd, hx⟩
    exact ⟨member, s, _, rfl, by rw [toFloat, hd], hx⟩

/-- A text is refused as a text if it is no numeral, and as a float if its float is not finite. -/
theorem textToInt_error (h : textToInt s = .error error) :
    Numeral.decimal? s.strip = none ∧ error = .coercion [Specifier.integer.char] "str" ∨
      ∃ d, Numeral.decimal? s.strip = some d ∧ (Binary64.ofDecimal d).isFinite = false ∧
        error = .coercion [Specifier.integer.char] "float" := by
  unfold textToInt at h
  simp only at h
  split at h
  · cases h
  · split at h
    · rename_i hdecimal
      cases h
      exact .inl ⟨hdecimal, rfl⟩
    · rename_i d hdecimal
      split at h
      · cases h
      · rename_i htruncate
        cases h
        exact .inr ⟨d, hdecimal, Binary64.truncate?_eq_none_iff.mp htruncate, rfl⟩

/-- Whatever is no text is refused as what it is. -/
theorem toInt_error_of_not_text (htext : ∀ member s, argument ≠ text member s)
    (h : argument.toInt = .error error) :
    error = .coercion [Specifier.integer.char] argument.kind := by
  cases argument with
  | text member s => exact absurd rfl (htext member s)
  | null | bool | int | fraction => cases h
  | float member x =>
    rw [toInt] at h
    cases hx : x.truncate? with
    | some n => rw [hx] at h; cases h
    | none => rw [hx] at h; cases h; rfl
  | decimal d =>
    rw [toInt] at h
    cases hd : d.truncate? with
    | some n => rw [hd] at h; cases h
    | none => rw [hd] at h; cases h; rfl
  | skip | complex | sequence | mapping | classified | bytes | other => cases h; rfl

end Argument

/-- **What a failing coercion names.** Where an argument is no whole number, the error is a coercion
error for `?d`. It names the kind of the argument, unless this is a text that a `?f` would take for
an infinity or a NaN; then it names the kind of a float. -/
theorem toInt_error_kind {argument : Argument} {error : QueryError}
    (h : argument.toInt = .error error) :
    (¬ argument.IsNonFiniteText ∧
      error = .coercion [Specifier.integer.char] argument.coercionKind) ∨
    (argument.IsNonFiniteText ∧ error = .coercion [Specifier.integer.char] "float") := by
  -- only texts can be refused as something else than what they are
  by_cases htext : ∃ member s, argument = .text member s
  · obtain ⟨member, s, rfl⟩ := htext
    rw [Argument.isNonFiniteText_text_iff]
    rcases Argument.textToInt_error h with ⟨hnone, rfl⟩ | ⟨d, hd, hx, rfl⟩
    · refine .inl ⟨?_, rfl⟩
      rintro ⟨d, hd, -⟩
      rw [hnone] at hd
      cases hd
    · exact .inr ⟨⟨d, hd, hx⟩, rfl⟩
  · have hne : ∀ member s, argument ≠ .text member s := fun member s heq => htext ⟨member, s, heq⟩
    refine .inl ⟨?_, ?_⟩
    · rintro ⟨member, s, -, heq, -⟩
      exact hne member s heq
    · rw [Argument.toInt_error_of_not_text hne h]
      cases argument with
      | text member s => exact absurd rfl (hne member s)
      | _ => rfl

/-- A text that is no numeral, in an enumeration, and a list of numbers. -/
theorem toInt_error_kind_of_underscores :
    let text : Argument := .text (some ⟨"Color", "RED"⟩) "1__0".toList
    let list : Argument := .ofList [.ofInt 1]
    text.toInt = .error (.coercion ['d'] "str") ∧ ¬ text.IsNonFiniteText ∧
      list.toInt = .error (.coercion ['d'] "list") ∧ ¬ list.IsNonFiniteText := by
  intro text list
  have htext : text.toInt = .error (.coercion ['d'] "str") := by rfl
  have hlist : list.toInt = .error (.coercion ['d'] "list") := by rfl
  refine ⟨htext, ?_, hlist, ?_⟩
  · rcases toInt_error_kind htext with ⟨hfinite, -⟩ | ⟨-, hkind⟩
    · exact hfinite
    · exact absurd hkind (by decide)
  · rcases toInt_error_kind hlist with ⟨hfinite, -⟩ | ⟨-, hkind⟩
    · exact hfinite
    · exact absurd hkind (by decide)

/-- Texts that are named after the float that they were turned into. -/
theorem toInt_error_kind_of_infinity :
    let word : Argument := .ofText "inf".toList
    let power : Argument := .ofText " 1e999\n".toList
    word.toInt = .error (.coercion ['d'] "float") ∧ word.coercionKind = "str" ∧
      power.toInt = .error (.coercion ['d'] "float") ∧ power.coercionKind = "str" := by
  exact ⟨by rfl, rfl, by rfl, rfl⟩

end SqlTemplate
