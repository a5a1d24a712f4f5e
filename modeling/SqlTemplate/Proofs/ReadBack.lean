import SqlTemplate.Escaper
import SqlTemplate.Proofs.Lexer
import SqlTemplate.Proofs.Number.Printed

/-!
# What is rendered is read back

Whatever value an escaper renders, a reader of its idiom finds exactly the tokens of that value, and
then those of the text that follows (`lex_render`).

Each kind of literal has a lemma that it is read as one token, where the text that follows does not
go on with it. Lists and mappings put a comma between their parts, which is such a text.
-/

namespace SqlTemplate

/-! ## Where a literal ends -/

/-- Whether a literal that stands before `s` ends there: with a blank, a comma or a closing
parenthesis, or with the end of the query. -/
def EndsBefore (s : Text) : Prop :=
  ∀ c ∈ s.head?, Text.isBlank c ∨ c = ',' ∨ c = ')'

/-- The letters are the two runs of code points from `A` to `Z` and from `a` to `z`. -/
theorem isAlpha_iff {c : Char} :
    c.isAlpha ↔ 65 ≤ c.toNat ∧ c.toNat ≤ 90 ∨ 97 ≤ c.toNat ∧ c.toNat ≤ 122 := by
  show (decide ('A'.val ≤ c.val ∧ c.val ≤ 'Z'.val) ||
    (decide ('a'.val ≤ c.val) && decide (c.val ≤ 'z'.val))) = true ↔ _
  simp only [Bool.or_eq_true, Bool.and_eq_true, decide_eq_true_eq, UInt32.le_iff_toNat_le]
  exact Iff.rfl

/-- No blank is part of a word: all word characters lie between the digit `0` and the letter `z`,
where no blank is. -/
theorem isBlank_of_isWordChar {c : Char} (h : Lexer.isWordChar c) : Text.isBlank c = false := by
  have hc : 48 ≤ c.toNat ∧ c.toNat ≤ 122 := by
    simp only [Lexer.isWordChar, Char.isAlphanum, Bool.or_eq_true, decide_eq_true_eq] at h
    rcases h with (h | h) | rfl
    · rw [isAlpha_iff] at h
      omega
    · rw [isDigit_iff] at h
      omega
    · decide
  simp only [Text.isBlank, Bool.or_eq_false_iff, Bool.and_eq_false_iff, beq_eq_false_iff_ne,
    decide_eq_false_iff_not]
  omega

/-- What ends a literal goes on with no word, number or region. -/
theorem EndsBefore.head {s : Text} (h : EndsBefore s) :
    ∀ c ∈ s.head?, Lexer.isWordChar c = false ∧ c ≠ '.' ∧ Quote.ofChar? c = none := by
  intro c hc
  rcases h c hc with hblank | rfl | rfl
  · refine ⟨?_, ?_, ?_⟩
    · by_contra hword
      rw [isBlank_of_isWordChar (by simpa using hword)] at hblank
      cases hblank
    · rintro rfl
      exact absurd hblank (by decide)
    · unfold Quote.ofChar?
      split <;> first | rfl | exact absurd hblank (by decide)
  · decide
  · decide

/-- What ends a literal starts with no digit. -/
theorem EndsBefore.isDigit {s : Text} (h : EndsBefore s) : ∀ c ∈ s.head?, c.isDigit = false := by
  intro c hc
  have hword := (h.head c hc).1
  simp only [Lexer.isWordChar, Char.isAlphanum, Bool.or_eq_false_iff] at hword
  exact hword.1.2

/-- The text behind a literal does not start with a quote, so a closing quote before it is not a
doubled one. -/
theorem EndsBefore.ne_quote {s : Text} (h : EndsBefore s) (quote : Quote) :
    ∀ c ∈ s.head?, c ≠ quote.char :=
  fun c hc => Quote.ne_char_of_ofChar? (h.head c hc).2.2 quote

/-! ## Regions -/

/-- A text whose quotes are doubled is read back whole, and the region ends at the quote behind
it. -/
theorem readQuoted_double {q : Char} {rest : Text} (hrest : ∀ c ∈ rest.head?, c ≠ q) (s : Text) :
    Lexer.readQuoted q false (s.double q ++ q :: rest) = some (s, rest) := by
  induction s with
  | nil => exact Lexer.readQuoted_end hrest
  | cons c s ih =>
    rw [Text.double_cons]
    by_cases hc : c = q
    · subst hc
      rw [if_pos rfl, List.append_assoc, List.cons_append, List.cons_append, List.nil_append,
        Lexer.readQuoted_twice, ih]
      rfl
    · rw [if_neg hc, List.append_assoc, List.cons_append, List.nil_append,
        Lexer.readQuoted_plain hc (by simp), ih]
      rfl

/-- A code point that is escaped stands behind a backslash, and otherwise it is neither a backslash
nor a quote. -/
theorem backslashChar_cases (c : Char) :
    (∃ d, TextEscaper.backslashChar c = ['\\', d] ∧ Lexer.unescape? d = some c) ∨
      TextEscaper.backslashChar c = [c] ∧ c ≠ '\\' ∧ c ≠ '\'' := by
  unfold TextEscaper.backslashChar
  split
  case h_8 hzero hn hr hbackslash hquote hdouble hz =>
    exact .inr ⟨rfl, hbackslash, hquote⟩
  all_goals exact .inl ⟨_, rfl, rfl⟩

/-- A text escaped with backslashes is read back whole, and the region ends at the quote behind
it. -/
theorem readQuoted_backslash {rest : Text} (hrest : ∀ c ∈ rest.head?, c ≠ '\'') (s : Text) :
    Lexer.readQuoted '\'' true (s.flatMap TextEscaper.backslashChar ++ '\'' :: rest) =
      some (s, rest) := by
  induction s with
  | nil => exact Lexer.readQuoted_end hrest
  | cons c s ih =>
    rw [List.flatMap_cons, List.append_assoc]
    -- two code points are read at once, or one
    rcases backslashChar_cases c with ⟨d, hd, hunescape⟩ | ⟨hc, hbackslash, hquote⟩
    · rw [hd, List.cons_append, List.cons_append, List.nil_append,
        Lexer.readQuoted_escape (by decide) hunescape, ih]
      rfl
    · rw [hc, List.cons_append, List.nil_append,
        Lexer.readQuoted_plain hquote fun _ => hbackslash, ih]
      rfl

/-- Whichever of the two ways an idiom has to escape text, the region holds the text again. -/
theorem readQuoted_escaped (idiom : Idiom) {rest : Text} (hrest : EndsBefore rest) (s : Text) :
    Lexer.readQuoted Quote.single.char idiom.backslash
      (idiom.escaped s ++ Quote.single.char :: rest) = some (s, rest) := by
  have hne := hrest.ne_quote .single
  unfold Idiom.escaped
  -- the two escapers write different texts, so each has its own reading lemma
  cases idiom.backslash with
  | true => exact readQuoted_backslash hne s
  | false => exact readQuoted_double hne s

/-! ## Numerals and words -/

/-- A run of code points with a property ends where a code point does not have it. -/
theorem span_append {p : Char → Bool} {s rest : Text} (h : ∀ c ∈ s, p c)
    (hrest : ∀ c ∈ rest.head?, p c = false) :
    (s ++ rest).takeWhile p = s ∧ (s ++ rest).dropWhile p = rest := by
  have htake : rest.takeWhile p = [] := by
    cases rest with
    | nil => rfl
    | cons c rest => rw [List.takeWhile_cons, hrest c rfl]; rfl
  have hdrop : rest.dropWhile p = rest := by
    cases rest with
    | nil => rfl
    | cons c rest => rw [List.dropWhile_cons, hrest c rfl]; rfl
  rw [List.takeWhile_append_of_pos h, List.dropWhile_append_of_pos h, htake, hdrop]
  exact ⟨List.append_nil s, rfl⟩

/-- The sign of a numeral is read, and its digits are left. -/
theorem readSign_digits {s rest : Text} (h : IsDigits s) (negative : Bool) :
    Numeral.readSign ((if negative then ['-'] else []) ++ s ++ rest) = (negative, s ++ rest) := by
  cases negative with
  | true => rfl
  | false =>
    cases s with
    | nil => exact absurd rfl h.1
    | cons c s =>
      have hdigit := h.2 c List.mem_cons_self
      show Numeral.readSign (c :: (s ++ rest)) = _
      unfold Numeral.readSign
      split
      · cases ‹_ = _›
        cases hdigit
      · cases ‹_ = _›
        cases hdigit
      · rfl

/-- The power of ten is read as it was written, also where a numeral has none: what ends the literal
is not an `e`. -/
theorem readPower_text {power : Option (Bool × Text)} {rest : Text}
    (h : ∀ p, power = some p → IsDigits p.2) (hrest : EndsBefore rest) :
    Lexer.readPower (Spelling.powerText power ++ rest) = (power, rest) := by
  cases power with
  | none =>
    cases rest with
    | nil => rfl
    | cons c rest =>
      have hword := (hrest.head c rfl).1
      have hc : ¬(c = 'e' ∨ c = 'E') := by
        rintro (rfl | rfl) <;> cases hword
      show Lexer.readPower (c :: rest) = _
      rw [Lexer.readPower, if_neg (fun hpower => hc hpower.1)]
  | some p =>
    obtain ⟨negative, digits⟩ := p
    have hdigits : IsDigits digits := h _ rfl
    obtain ⟨htake, hdrop⟩ := span_append hdigits.2 hrest.isDigit
    have hsign : Numeral.readSign ((if negative then '-' else '+') :: (digits ++ rest)) =
        (negative, digits ++ rest) := by
      cases negative <;> rfl
    show Lexer.readPower ('e' :: (if negative then '-' else '+') :: (digits ++ rest)) = _
    rw [Lexer.readPower, hsign]
    simp only
    rw [htake, hdrop, if_pos ⟨Or.inl trivial, hdigits.1⟩]

/-- The digits behind the point are read as they were written, also where there is no point. -/
theorem readFraction_text {fraction rest : Text} (h : fraction = [] ∨ IsDigits fraction)
    (hpoint : ∀ c ∈ rest.head?, c ≠ '.') (hrest : ∀ c ∈ rest.head?, c.isDigit = false) :
    Lexer.readFraction (Spelling.fractionText fraction ++ rest) = (fraction, rest) := by
  rcases h with rfl | h
  · cases rest with
    | nil => rfl
    | cons c rest =>
      show Lexer.readFraction (c :: rest) = _
      unfold Lexer.readFraction
      split
      · cases ‹_ = _›
        exact absurd rfl (hpoint '.' rfl)
      · rfl
  · obtain ⟨htake, hdrop⟩ := span_append h.2 hrest
    rw [Spelling.fractionText, if_neg h.1, List.cons_append, Lexer.readFraction, htake, hdrop,
      if_neg h.1]

/-- A well-formed numeral is read as it was written, and nothing that ends a literal is added to
it. -/
theorem readNumeral_text {n : Spelling} {rest : Text} (h : n.WellFormed)
    (hrest : EndsBefore rest) : Lexer.readNumeral (n.text ++ rest) = some (n, rest) := by
  have hpower : ∀ c ∈ (Spelling.powerText n.power ++ rest).head?, c ≠ '.' ∧ c.isDigit = false := by
    cases n.power with
    | none => exact fun c hc => ⟨(hrest.head c hc).2.1, hrest.isDigit c hc⟩
    | some p =>
      rintro c ⟨⟩
      decide
  have hfraction : ∀ c ∈ (Spelling.fractionText n.fraction ++
      (Spelling.powerText n.power ++ rest)).head?, c.isDigit = false := by
    unfold Spelling.fractionText
    split
    · exact fun c hc => (hpower c hc).2
    · rintro c ⟨⟩
      decide
  -- no part begins with a digit, so each run of digits ends where its part does
  obtain ⟨htake, hdrop⟩ := span_append h.whole.2 hfraction
  have htext : n.text ++ rest = (if n.negative then ['-'] else []) ++ n.whole ++
      (Spelling.fractionText n.fraction ++ (Spelling.powerText n.power ++ rest)) := by
    simp only [Spelling.text, List.append_assoc]
  rw [htext, Lexer.readNumeral, readSign_digits h.whole]
  simp only
  rw [htake, hdrop, readFraction_text h.fraction (fun c hc => (hpower c hc).1)
    fun c hc => (hpower c hc).2]
  simp only
  rw [readPower_text h.power hrest, if_neg h.whole.1]

/-! ## One token -/

/-- The text is read as the tokens, whatever follows it that ends a literal. -/
def Reads (idiom : Idiom) (s : Text) (tokens : List SqlToken) : Prop :=
  ∀ rest, EndsBefore rest → lex idiom (s ++ rest) = (lex idiom rest).map (tokens ++ ·)

namespace Reads

variable {idiom : Idiom} {s s' : Text} {tokens tokens' : List SqlToken}

theorem nil : Reads idiom [] [] := by
  intro rest _
  simp

/-- A text is one token when its first code point is no blank and `Lexer.next` reads the rest of
it. -/
theorem of_next {c : Char} {token : SqlToken} (hblank : Text.isBlank c = false)
    (h : ∀ rest, EndsBefore rest → Lexer.next idiom c (s ++ rest) = some (token, rest)) :
    Reads idiom (c :: s) [token] :=
  fun rest hrest => lex_token hblank (h rest hrest)

/-- Escaped text between single quotes is the one token of that text. -/
theorem string (content : Text) : Reads idiom
    (Quote.single.char :: (idiom.escaped content ++ [Quote.single.char])) [.string content] := by
  refine of_next (by decide) fun rest hrest => ?_
  rw [List.append_assoc, List.cons_append, List.nil_append, Lexer.next, if_pos rfl,
    readQuoted_escaped idiom hrest]
  rfl

/-- A quoted name is the one token of that name, in an idiom that does not quote names like text. -/
theorem identifier (h : idiom.identifierQuote ≠ .single) (name : Text) : Reads idiom
    (Text.enclose idiom.identifierQuote.char idiom.identifierQuote.char name)
    [.identifier name] := by
  have hblank : Text.isBlank idiom.identifierQuote.char = false := by
    cases idiom.identifierQuote <;> decide
  refine of_next hblank fun rest hrest => ?_
  -- a single quote would be read as the start of a text
  have hne : idiom.identifierQuote.char ≠ Quote.single.char := fun heq =>
    h (Quote.char_injective heq)
  rw [List.append_assoc, List.cons_append, List.nil_append, Lexer.next, if_neg hne, if_pos rfl,
    readQuoted_double (hrest.ne_quote _)]
  rfl

/-- A word starts with a letter, and so it is neither a region nor a numeral. -/
theorem word {c : Char} (hc : c.isAlpha) (hs : s.all Lexer.isWordChar) :
    Reads idiom (c :: s) [Lexer.ofWord (c :: s)] := by
  have hword : Lexer.isWordChar c := by simp [Lexer.isWordChar, Char.isAlphanum, hc]
  refine of_next (isBlank_of_isWordChar hword) fun rest hrest => ?_
  obtain ⟨htake, hdrop⟩ := span_append (List.all_eq_true.mp hs) fun c hc => (hrest.head c hc).1
  have hquote (quote : Quote) : c ≠ quote.char := by
    rintro rfl
    cases quote <;> cases hc
  rw [Lexer.next, if_neg (hquote _), if_neg (hquote _), if_pos (by simp [hc]), htake, hdrop]

/-- A code point that starts a numeral starts nothing else. -/
theorem next_of_readNumeral {c : Char} {rest rest' : Text} {n : Spelling}
    (hc : c = '-' ∨ c.isDigit) (h : Lexer.readNumeral (c :: rest) = some (n, rest')) :
    Lexer.next idiom c rest = some (Lexer.ofSpelling n, rest') := by
  have hquote (quote : Quote) : c ≠ quote.char := by
    rintro rfl
    rcases hc with hc | hc <;> cases quote <;> cases hc
  have halpha : ¬(c.isAlpha || c = '_') := by
    rcases hc with rfl | hc
    · decide
    · rw [isDigit_iff] at hc
      simp only [Bool.or_eq_true, isAlpha_iff, decide_eq_true_eq]
      rintro (hc' | rfl)
      · omega
      · exact absurd hc (by decide)
  rw [Lexer.next, if_neg (hquote _), if_neg (hquote _), if_neg halpha, h]

/-- A well-formed numeral is one token: it starts with a sign or a digit, and so with no word. -/
theorem numeral {n : Spelling} (h : n.WellFormed) :
    Reads idiom n.text [Lexer.ofSpelling n] := by
  obtain ⟨c, tail, htext, hc⟩ : ∃ c tail, n.text = c :: tail ∧ (c = '-' ∨ c.isDigit) := by
    obtain ⟨c, whole, hwhole⟩ := List.exists_cons_of_ne_nil h.whole.1
    cases hnegative : n.negative with
    | true => exact ⟨_, _, by simp [Spelling.text, hnegative]; rfl, .inl rfl⟩
    | false =>
      refine ⟨c, _, by simp [Spelling.text, hnegative, hwhole]; rfl, .inr ?_⟩
      exact h.whole.2 c (by simp [hwhole])
  have hblank : Text.isBlank c = false := by
    rcases hc with rfl | hc
    · decide
    · exact isBlank_of_isWordChar (by simp [Lexer.isWordChar, Char.isAlphanum, hc])
  rw [htext]
  refine of_next hblank fun rest hrest => next_of_readNumeral hc ?_
  rw [← List.cons_append, ← htext]
  exact readNumeral_text h hrest

/-! ## Several tokens -/

/-- Blanks and the two signs between parts each end what stands before them. -/
theorem endsBefore_blank (s : Text) : EndsBefore (' ' :: s) := by
  rintro c ⟨⟩
  exact .inl rfl

theorem endsBefore_comma (s : Text) : EndsBefore (',' :: s) := by
  rintro c ⟨⟩
  exact .inr (.inl rfl)

/-- A comma and an equals sign are tokens of their own. -/
theorem next_symbol {c : Char} {rest : Text} (hc : c = ',' ∨ c = '=') :
    Lexer.next idiom c rest = some (Lexer.ofSymbol c, rest) := by
  have hquote (quote : Quote) : c ≠ quote.char := by
    rintro rfl
    rcases hc with hc | hc <;> cases quote <;> cases hc
  have hnumeral : Lexer.readNumeral (c :: rest) = none := by
    rcases hc with rfl | rfl <;> rfl
  have halpha : ¬(c.isAlpha || c = '_') := by
    rcases hc with rfl | rfl <;> decide
  rw [Lexer.next, if_neg (hquote _), if_neg (hquote _), if_neg halpha, hnumeral]

theorem lex_comma (rest : Text) :
    lex idiom (',' :: ' ' :: rest) = (lex idiom rest).map (.comma :: ·) := by
  rw [lex_token (by decide) (next_symbol (.inl rfl)), lex_blank (by decide)]
  rfl

theorem lex_equals (rest : Text) :
    lex idiom (' ' :: '=' :: ' ' :: rest) = (lex idiom rest).map (.equals :: ·) := by
  rw [lex_blank (by decide), lex_token (by decide) (next_symbol (.inr rfl)), lex_blank (by decide)]
  rfl

/-- Two texts with a comma between them are the tokens of both with a comma between them. -/
theorem comma (hs : Reads idiom s tokens) (hs' : Reads idiom s' tokens') :
    Reads idiom (s ++ [',', ' '] ++ s') (tokens ++ [.comma] ++ tokens') := by
  intro rest hrest
  -- the first part is ended by the comma, and the second by whatever follows both
  calc lex idiom (s ++ [',', ' '] ++ s' ++ rest)
      = lex idiom (s ++ ',' :: ' ' :: (s' ++ rest)) := by simp
    _ = (lex idiom (',' :: ' ' :: (s' ++ rest))).map (tokens ++ ·) := hs _ (endsBefore_comma _)
    _ = ((lex idiom (s' ++ rest)).map (.comma :: ·)).map (tokens ++ ·) := by rw [lex_comma]
    _ = (((lex idiom rest).map (tokens' ++ ·)).map (.comma :: ·)).map (tokens ++ ·) := by
        rw [hs' rest hrest]
    _ = (lex idiom rest).map (tokens ++ [.comma] ++ tokens' ++ ·) := by
        simp [Option.map_map, Function.comp_def]

/-- A key and a value with an equals sign between them are the tokens of both with that sign between
them. -/
theorem entry (hs : Reads idiom s tokens) (hs' : Reads idiom s' tokens') :
    Reads idiom (s ++ [' ', '=', ' '] ++ s') (tokens ++ [.equals] ++ tokens') := by
  intro rest hrest
  -- here the blank before the sign ends the key
  calc lex idiom (s ++ [' ', '=', ' '] ++ s' ++ rest)
      = lex idiom (s ++ ' ' :: '=' :: ' ' :: (s' ++ rest)) := by simp
    _ = (lex idiom (' ' :: '=' :: ' ' :: (s' ++ rest))).map (tokens ++ ·) :=
        hs _ (endsBefore_blank _)
    _ = ((lex idiom (s' ++ rest)).map (.equals :: ·)).map (tokens ++ ·) := by rw [lex_equals]
    _ = (((lex idiom rest).map (tokens' ++ ·)).map (.equals :: ·)).map (tokens ++ ·) := by
        rw [hs' rest hrest]
    _ = (lex idiom rest).map (tokens ++ [.equals] ++ tokens' ++ ·) := by
        simp [Option.map_map, Function.comp_def]

/-- Parts with commas between them are read one by one, also those that are empty. -/
theorem commaSeparated {parts : List Text} {lists : List (List SqlToken)}
    (h : List.Forall₂ (Reads idiom) parts lists) :
    Reads idiom (Text.commaSeparated parts) ([.comma].intercalate lists) := by
  unfold Text.commaSeparated
  induction h with
  | nil => exact nil
  | cons hpart hparts ih =>
    cases hparts with
    | nil =>
      rw [List.intercalate_singleton, List.intercalate_singleton]
      exact hpart
    | cons hnext hrest =>
      -- an empty part is ended by its comma like any other
      rw [List.intercalate_cons_cons, List.intercalate_cons_cons]
      exact hpart.comma ih

end Reads

/-! ## Values -/

mutual

/-- The tokens of a value. What a dialect has no word for is the token of what is written instead: a
truth value may be the number one or zero. -/
def SqlValue.tokens (idiom : Idiom) : SqlValue → List SqlToken
  | .null => [.null]
  | .bool b => [if idiom.boolWords then .bool b else .integer (if b then 1 else 0)]
  | .int n => [.integer n]
  | .float x => [.float x]
  | .text s => [.string s]
  | .list items => [.comma].intercalate (SqlValue.itemTokens idiom items)
  | .mapping entries => [.comma].intercalate (SqlValue.entryTokens idiom entries)

def SqlValue.itemTokens (idiom : Idiom) : List SqlValue → List (List SqlToken)
  | [] => []
  | item :: items => item.tokens idiom :: SqlValue.itemTokens idiom items

/-- The tokens of each entry of a mapping: the key as an identifier, and the value it is set to. -/
def SqlValue.entryTokens (idiom : Idiom) : List (Text × SqlValue) → List (List SqlToken)
  | [] => []
  | (key, item) :: entries =>
    ([.identifier key] ++ [.equals] ++ item.tokens idiom) :: SqlValue.entryTokens idiom entries

end

section Values

variable {escaper : Escaper} {idiom : Idiom} {s : Text}

theorem reads_intLiteral {n : Int} (h : (Escaper.intLiteral n).result = .ok s) :
    Reads idiom s [.integer n] := by
  unfold Escaper.intLiteral at h
  split at h
  · cases h
    have htoken : Lexer.ofSpelling (.ofInt n) = .integer n := by
      have hvalue : signed (n < 0) (Nat.ofDigitChars 10 (Text.ofNat n.natAbs) 0) = n := by
        rw [ofDigitChars_ofNat, signed_natAbs]
      exact congrArg SqlToken.integer hvalue
    rw [← Spelling.text_ofInt, ← htoken]
    exact .numeral (Spelling.wellFormed_ofInt n)
  · cases h

/-- A float that is written is read as that very float: the shortest numeral that stands for it is
read back exactly. -/
theorem reads_floatLiteral {x : Binary64} (h : (Escaper.floatLiteral x).result = .ok s) :
    Reads idiom s [.float x] := by
  unfold Escaper.floatLiteral at h
  split at h
  · rename_i hfinite
    cases h
    cases x with
    | finite negative significand exponent canonical =>
      obtain ⟨n, hn, hwhole, htext, hread⟩ := Binary64.exists_spelling negative canonical
      have htoken : Lexer.ofSpelling n =
          .float (.finite negative significand exponent canonical) := by
        rw [Lexer.ofSpelling, hwhole, hread]
        rfl
      rw [← htext, ← htoken]
      exact .numeral hn
    | infinite _ => cases hfinite
    | nan => cases hfinite
  · cases h

/-- A truth value is read back as the word or the number that the dialect has for it. -/
theorem reads_boolLiteral (h : escaper.Speaks idiom) (b : Bool) :
    Reads idiom (escaper.dialect.boolLiteral b) ((SqlValue.bool b).tokens idiom) := by
  rw [h.boolLiteral, SqlValue.tokens]
  -- words and numbers are read by different rules
  cases idiom.boolWords with
  | true =>
    cases b
    · exact .word (by decide) (by decide)
    · exact .word (by decide) (by decide)
  | false =>
    cases b
    · exact .numeral (Spelling.wellFormed_ofInt 0)
    · exact .numeral (Spelling.wellFormed_ofInt 1)

mutual

/-- What is rendered from a value is read as the tokens of the value. -/
theorem reads_render (h : escaper.Speaks idiom) : ∀ (value : SqlValue) (s : Text),
    (escaper.render value).result = .ok s → Reads idiom s (value.tokens idiom)
  | .null => by
    rintro s ⟨⟩
    exact .word (by decide) (by decide)
  | .bool value => by
    rintro s ⟨⟩
    exact reads_boolLiteral h value
  | .int value => by
    rw [Escaper.render]
    exact fun s hs => reads_intLiteral hs
  | .float value => by
    rw [Escaper.render]
    exact fun s hs => reads_floatLiteral hs
  | .text content => by
    rw [Escaper.render, h.result_textLiteral]
    rintro s ⟨⟩
    exact .string content
  | .list items => by
    intro s hs
    rw [Escaper.result_render_list] at hs
    obtain ⟨parts, hparts, rfl⟩ := exists_of_map_eq_ok hs
    exact .commaSeparated (reads_renderItems h items parts hparts)
  | .mapping entries => by
    intro s hs
    rw [Escaper.result_render_mapping] at hs
    obtain ⟨parts, hparts, rfl⟩ := exists_of_map_eq_ok hs
    exact .commaSeparated (reads_renderEntries h entries parts hparts)

/-- Every item of a list is read as the tokens of the item. -/
theorem reads_renderItems (h : escaper.Speaks idiom) :
    ∀ (items : List SqlValue) (parts : List Text),
    (escaper.renderItems items).result = .ok parts →
      List.Forall₂ (Reads idiom) parts (SqlValue.itemTokens idiom items)
  | [] => by
    rintro parts ⟨⟩
    exact .nil
  | item :: items => by
    intro parts hparts
    rw [Escaper.result_renderItems_cons] at hparts
    obtain ⟨written, hwritten, hparts⟩ := exists_of_bind_eq_ok hparts
    obtain ⟨rest, hrest, rfl⟩ := exists_of_map_eq_ok hparts
    exact .cons (reads_render h item written hwritten) (reads_renderItems h items rest hrest)

theorem reads_renderEntries (h : escaper.Speaks idiom) :
    ∀ (entries : List (Text × SqlValue)) (parts : List Text),
    (escaper.renderEntries entries).result = .ok parts →
      List.Forall₂ (Reads idiom) parts (SqlValue.entryTokens idiom entries)
  | [] => by
    rintro parts ⟨⟩
    exact .nil
  | (key, item) :: entries => by
    intro parts hparts
    rw [Escaper.result_renderEntries_cons, h.quoteIdentifier] at hparts
    obtain ⟨written, hwritten, hparts⟩ := exists_of_bind_eq_ok hparts
    obtain ⟨rest, hrest, rfl⟩ := exists_of_map_eq_ok hparts
    -- the blank behind the key ends the identifier
    refine .cons ?_ (reads_renderEntries h entries rest hrest)
    have hkey : Reads idiom _ [.identifier key] := Reads.identifier h.identifierQuote_ne key
    exact hkey.entry (reads_render h item written hwritten)

end

end Values

/-- **What is rendered is read back.** Take a dialect of the library with the standard text escaper,
or `mysql` with backslashes. If a value is rendered, then before a text that ends a literal it is
read as exactly the tokens of the value, and what follows is read as it would be alone. -/
theorem lex_render (vendor : Vendor) (backslash : Bool)
    (hpairing : backslash = true → vendor = .mysql) (value : SqlValue) (s rest : Text)
    (hs : ((vendor.escaper backslash).render value).result = .ok s) (hrest : EndsBefore rest) :
    let idiom := vendor.idiom backslash
    lex idiom (s ++ rest) = (lex idiom rest).map (value.tokens idiom ++ ·) :=
  reads_render (vendor.speaks hpairing) value s hs rest hrest

/-- A mapping with a backtick in its key, a list in a list, and text that ends with a backslash. -/
theorem lex_render_of_nested :
    let value : SqlValue := .mapping [("k`".toList,
      .list [.text "'\\".toList, .list [], .list [.null, .bool true]])]
    let s : Text := "`k``` = '\\'\\\\', , NULL, 1".toList
    let idiom := Vendor.mysql.idiom true
    ((Vendor.mysql.escaper true).render value).result = .ok s ∧ EndsBefore ")".toList ∧
      lex idiom (s ++ ")".toList) = (lex idiom ")".toList).map ([
        .identifier "k`".toList, .equals, .string "'\\".toList, .comma, .comma, .null, .comma,
        .integer 1] ++ ·) := by
  intro value s idiom
  have hrest : EndsBefore ")".toList := by
    rintro c ⟨⟩
    exact .inr (.inr rfl)
  exact ⟨rfl, hrest, lex_render .mysql true (fun _ => rfl) value s _ rfl hrest⟩

end SqlTemplate
