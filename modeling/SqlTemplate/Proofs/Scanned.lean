import SqlTemplate.Template.Token
import SqlTemplate.Traced

/-!
# How a template is scanned

A scan takes one code point of text, one brace or one placeholder at a time, or stops at a question
mark with a letter that is no specifier. `Token.induction_on_scan` is the induction that follows
these steps, and `Token.Scanned` says which tokens a stretch of a template is scanned into. It is no
second scanner: it is there to prove things about templates one token at a time.
-/

namespace SqlTemplate

namespace Specifier

theorem char_of_ofChar? {c : Char} {specifier : Specifier} (h : ofChar? c = some specifier) :
    specifier.char = c := by
  unfold ofChar? at h
  split at h <;> cases h <;> rfl

theorem ofChar?_eq_none_iff {c : Char} : ofChar? c = none ↔ c ∉ ['d', 'f', '#', 'a'] := by
  unfold ofChar?
  split <;> simp_all

end Specifier

theorem Brace.char_ne_mark (b : Brace) : b.char ≠ '?' := by
  cases b <;> decide

namespace Token

/-- What a placeholder with the specifier is in a template. -/
def mark (specifier : Option Specifier) : Text :=
  '?' :: (specifier.map Specifier.char).toList

/-- Whether a question mark in front of `rest` takes no specifier from it. -/
def StandsAlone (rest : Text) : Prop :=
  ∀ c ∈ rest.head?, takesForSpecifier c = false

/-- A question mark takes a letter that is no specifier, and can make nothing of it. -/
theorem isAlpha_and_notMem_iff {c : Char} : c.isAlpha ∧ c ∉ ['d', 'f', 'a'] ↔
    takesForSpecifier c = true ∧ Specifier.ofChar? c = none := by
  rw [takesForSpecifier, Specifier.ofChar?_eq_none_iff, Bool.or_eq_true, beq_iff_eq]
  by_cases hc : c = '#'
  · subst hc
    decide
  · simp [hc]

/-- A question mark that stands alone has no specifier behind it. -/
theorem StandsAlone.ofChar?_eq_none {rest : Text} (h : StandsAlone rest) :
    rest.head?.bind Specifier.ofChar? = none := by
  cases rest with
  | nil => rfl
  | cons c rest =>
    have htakes : takesForSpecifier c = false := h c rfl
    show Specifier.ofChar? c = none
    cases hc : Specifier.ofChar? c with
    | none => rfl
    | some specifier =>
      rw [← Specifier.char_of_ofChar? hc, takesForSpecifier_char] at htakes
      cases htakes

/-- What a question mark can stand in front of. -/
theorem standsAlone_or_exists (rest : Text) : StandsAlone rest ∨
    (∃ (specifier : Specifier) (rest' : Text), rest = specifier.char :: rest') ∨
    ∃ c rest', rest = c :: rest' ∧ c.isAlpha ∧ c ∉ ['d', 'f', 'a'] := by
  cases rest with
  | nil => exact .inl nofun
  | cons c rest =>
    cases htakes : takesForSpecifier c with
    | false => exact .inl (by rintro d ⟨⟩; exact htakes)
    | true =>
      cases hc : Specifier.ofChar? c with
      | none => exact .inr (.inr ⟨c, rest, rfl, isAlpha_and_notMem_iff.mpr ⟨htakes, hc⟩⟩)
      | some specifier =>
        exact .inr (.inl ⟨specifier, rest, by rw [Specifier.char_of_ofChar? hc]⟩)

/-- Induction along the steps of a scan. -/
theorem induction_on_scan {motive : Text → Prop} (nil : motive [])
    (text : ∀ c rest, c ≠ '?' ∧ c ≠ '{' ∧ c ≠ '}' → motive rest → motive (c :: rest))
    (brace : ∀ (b : Brace) rest, motive rest → motive (b.char :: rest))
    (placeholder : ∀ specifier rest, (specifier = none → StandsAlone rest) → motive rest →
      motive (mark specifier ++ rest))
    (invalid : ∀ c rest, c.isAlpha ∧ c ∉ ['d', 'f', 'a'] → motive ('?' :: c :: rest))
    (s : Text) : motive s := by
  match s with
  | [] => exact nil
  | c :: rest =>
    have hrest : motive rest := induction_on_scan nil text brace placeholder invalid rest
    by_cases hmark : c = '?'
    · subst hmark
      rcases standsAlone_or_exists rest with halone | ⟨specifier, rest', rfl⟩ | ⟨c, rest', rfl, hc⟩
      · exact placeholder none rest (fun _ => halone) hrest
      · -- the specifier is taken with the mark, so the rest is two code points further on
        have hrest' : motive rest' := induction_on_scan nil text brace placeholder invalid rest'
        exact placeholder (some specifier) rest' nofun hrest'
      · exact invalid c rest' hc
    · by_cases hopening : c = '{'
      · exact hopening ▸ brace .opening rest hrest
      · by_cases hclosing : c = '}'
        · exact hclosing ▸ brace .closing rest hrest
        · exact text c rest ⟨hmark, hopening, hclosing⟩ hrest
termination_by s.length

/-- The stretch of a template that starts at the offset `n` is scanned into the tokens. -/
inductive Scanned : Nat → Text → List Token → Prop
  | nil {n : Nat} : Scanned n [] []
  | text {n : Nat} {c : Char} {rest : Text} {tokens : List Token}
      (hc : c ≠ '?' ∧ c ≠ '{' ∧ c ≠ '}') (hrest : Scanned (n + 1) rest tokens) :
      Scanned n (c :: rest) (consText c n tokens)
  | brace {n : Nat} {b : Brace} {rest : Text} {tokens : List Token}
      (hrest : Scanned (n + 1) rest tokens) : Scanned n (b.char :: rest) (brace b n :: tokens)
  | placeholder {n : Nat} {specifier : Option Specifier} {rest : Text} {tokens : List Token}
      (halone : specifier = none → StandsAlone rest)
      (hrest : Scanned (n + (mark specifier).length) rest tokens) :
      Scanned n (mark specifier ++ rest) (placeholder specifier n :: tokens)

section Steps

variable {rest : Text}

theorem scanFrom_brace (b : Brace) (n : Nat) :
    scanFrom n (b.char :: rest) = (scanFrom (n + 1) rest).map (brace b n :: ·) := by
  cases b with
  | opening => exact scanFrom_opening
  | closing => exact scanFrom_closing

/-- A question mark with the specifier that it takes is one token. -/
theorem scanFrom_mark {specifier : Option Specifier} (halone : specifier = none → StandsAlone rest)
    (n : Nat) :
    scanFrom n (mark specifier ++ rest) =
      (scanFrom (n + (mark specifier).length) rest).map (placeholder specifier n :: ·) := by
  cases specifier with
  | none => exact scanFrom_bare (halone rfl)
  | some specifier => exact scanFrom_specifier specifier

/-- A question mark with a letter that is no specifier ends the scan. -/
theorem scanFrom_invalid {c : Char} (hc : c.isAlpha ∧ c ∉ ['d', 'f', 'a']) (n : Nat) :
    scanFrom n ('?' :: c :: rest) = .error (.invalidSpecifier [c] (some n)) := by
  obtain ⟨htakes, hnone⟩ := isAlpha_and_notMem_iff.mp hc
  rw [scanFrom, htakes, hnone]
  rfl

end Steps

theorem scanned_of_scanFrom {s : Text} {n : Nat} {tokens : List Token}
    (h : scanFrom n s = .ok tokens) : Scanned n s tokens := by
  -- each step of the scan is one constructor of the relation
  induction s using induction_on_scan generalizing n tokens with
  | nil =>
    cases h
    exact .nil
  | text c rest hc ih =>
    rw [scanFrom_text hc.1 hc.2.1 hc.2.2] at h
    obtain ⟨tokens, hrest, rfl⟩ := exists_of_map_eq_ok h
    exact .text hc (ih hrest)
  | brace b rest ih =>
    rw [scanFrom_brace] at h
    obtain ⟨tokens, hrest, rfl⟩ := exists_of_map_eq_ok h
    exact .brace (ih hrest)
  | placeholder specifier rest halone ih =>
    rw [scanFrom_mark halone] at h
    obtain ⟨tokens, hrest, rfl⟩ := exists_of_map_eq_ok h
    exact .placeholder halone (ih hrest)
  | invalid c rest hc =>
    rw [scanFrom_invalid hc] at h
    cases h

/-- A placeholder has one question mark: no specifier is one. -/
theorem count_mark (specifier : Option Specifier) : (mark specifier).count '?' = 1 := by
  cases specifier with
  | none => rfl
  | some specifier => cases specifier <;> rfl

theorem not_brace_of_mem_mark (specifier : Option Specifier) :
    ∀ c ∈ mark specifier, c ≠ '{' ∧ c ≠ '}' := by
  cases specifier with
  | none => simp [mark]
  | some specifier => cases specifier <;> simp [mark, Specifier.char]

/-- Every question mark is one placeholder. -/
theorem Scanned.placeholderCount_eq {n : Nat} {s : Text} {tokens : List Token}
    (h : Scanned n s tokens) : placeholderCount tokens = s.count '?' := by
  induction h with
  | nil => rfl
  | text hc _ ih =>
    rw [placeholderCount, countP_isPlaceholder_consText, List.count_cons_of_ne hc.1]
    exact ih
  | @brace n b rest tokens _ ih =>
    rw [List.count_cons_of_ne b.char_ne_mark]
    exact ih
  | placeholder _ _ ih =>
    rw [placeholderCount_placeholder, ih, List.count_append, count_mark, Nat.add_comm]

end Token

end SqlTemplate
