import SqlTemplate.Number.Numeral
import SqlTemplate.Proofs.Idiom
import SqlTemplate.Proofs.Number.Spelling
import SqlTemplate.Text.Blank

/-!
# Reading SQL

A lexer for what escapers write, in a given idiom. Text stands between single quotes and identifiers
between the quotes of the idiom; a quote inside is written twice, and in text a backslash may
escape. Numerals have a sign, a point and a power of ten where they need one. Blanks are skipped,
and everything else is a word or a symbol of its own. Only a region that is not closed, and an
escape that means nothing, cannot be read.
-/

namespace SqlTemplate

/-- What a query is made of to a reader. -/
inductive SqlToken
  | string (content : Text)
  | identifier (name : Text)
  | integer (value : Int)
  | float (value : Binary64)
  | null
  | bool (value : Bool)
  | comma
  | equals
  | word (word : Text)
  | symbol (c : Char)

namespace Lexer

/-- What the code point behind a backslash stands for. Behind a backslash nothing else means
anything. -/
def unescape? : Char → Option Char
  | '0' => some '\x00'
  | 'n' => some '\n'
  | 'r' => some '\r'
  | '\\' => some '\\'
  | '\'' => some '\''
  | '"' => some '"'
  | 'Z' => some '\x1a'
  | _ => none

/-- A code point before what a region holds. -/
def prepend (c : Char) (read : Text × Text) : Text × Text :=
  (c :: read.1, read.2)

/-- What stands in a region up to its end, and what follows it. The region is closed by the quote
`q`, unless the quote stands there twice. -/
def readQuoted (q : Char) (backslash : Bool) : Text → Option (Text × Text)
  | [] => none
  | c :: rest =>
    if c = q then
      match rest with
      | d :: rest' =>
        if d = q then (readQuoted q backslash rest').map (prepend q) else some ([], rest)
      | [] => some ([], [])
    else if backslash && c = '\\' then
      match rest with
      | d :: rest' => (unescape? d).bind fun e => (readQuoted q backslash rest').map (prepend e)
      | [] => none
    else (readQuoted q backslash rest).map (prepend c)

section

variable {q c : Char} {backslash : Bool} {rest : Text}

/-- A code point that is no quote, and no backslash that escapes, stands for itself. -/
theorem readQuoted_plain (hquote : c ≠ q) (hbackslash : backslash = true → c ≠ '\\') :
    readQuoted q backslash (c :: rest) = (readQuoted q backslash rest).map (prepend c) := by
  rw [readQuoted.eq_def]
  simp only [if_neg hquote]
  rw [if_neg (by simpa using hbackslash)]

theorem readQuoted_twice :
    readQuoted q backslash (q :: q :: rest) = (readQuoted q backslash rest).map (prepend q) := by
  rw [readQuoted.eq_def]
  simp only [if_true]

theorem readQuoted_end (h : ∀ d ∈ rest.head?, d ≠ q) :
    readQuoted q backslash (q :: rest) = some ([], rest) := by
  rw [readQuoted.eq_def]
  cases rest with
  | nil => simp only [if_true]
  | cons d rest => simp only [if_true, if_neg (h d rfl)]

theorem readQuoted_escape {e : Char} (hquote : q ≠ '\\') (h : unescape? c = some e) :
    readQuoted q true ('\\' :: c :: rest) = (readQuoted q true rest).map (prepend e) := by
  rw [readQuoted.eq_def]
  simp only [if_neg hquote.symm, Bool.true_and, decide_true, if_true, h, Option.bind_some]

end

/-- The digits behind a point, if digits stand there, and what follows them. -/
def readFraction : Text → Text × Text
  | '.' :: rest =>
    if rest.takeWhile Char.isDigit = [] then ([], '.' :: rest)
    else (rest.takeWhile Char.isDigit, rest.dropWhile Char.isDigit)
  | s => ([], s)

/-- A power of ten, if one stands there, and what follows it. -/
def readPower : Text → Option (Bool × Text) × Text
  | [] => (none, [])
  | c :: rest =>
    let unsigned := (Numeral.readSign rest).2
    let digits := unsigned.takeWhile Char.isDigit
    if (c = 'e' ∨ c = 'E') ∧ digits ≠ [] then
      (some ((Numeral.readSign rest).1, digits), unsigned.dropWhile Char.isDigit)
    else (none, c :: rest)

/-- The numeral that stands first, as long as it can be, and what follows it. -/
def readNumeral (s : Text) : Option (Spelling × Text) :=
  let unsigned := (Numeral.readSign s).2
  let digits := unsigned.takeWhile Char.isDigit
  let (fraction, rest) := readFraction (unsigned.dropWhile Char.isDigit)
  let (power, rest) := readPower rest
  if digits = [] then none
  else some (⟨(Numeral.readSign s).1, digits, fraction, power⟩, rest)

/-- The number that a numeral stands for: a float, if it is not written as a whole number. -/
def ofSpelling (n : Spelling) : SqlToken :=
  if n.isWhole then .integer (signed n.negative (Nat.ofDigitChars 10 n.whole 0))
  else .float (Binary64.ofDecimal n.decimal)

/-- What a word may go on with: letters, digits and the underscore. -/
def isWordChar (c : Char) : Bool :=
  c.isAlphanum || c = '_'

/-- The token of a word. Three words are literals, and only in capitals. -/
def ofWord (word : Text) : SqlToken :=
  if word = ['N', 'U', 'L', 'L'] then .null
  else if word = ['T', 'R', 'U', 'E'] then .bool true
  else if word = ['F', 'A', 'L', 'S', 'E'] then .bool false
  else .word word

/-- What a code point stands for that is not part of anything longer. -/
def ofSymbol : Char → SqlToken
  | ',' => .comma
  | '=' => .equals
  | c => .symbol c

/-- The token that starts with the code point `c`, and what follows it. The two quotes are tried
first, then words, then numerals, and what is left is a symbol. -/
def next (idiom : Idiom) (c : Char) (rest : Text) : Option (SqlToken × Text) :=
  if c = Quote.single.char then
    (readQuoted c idiom.backslash rest).map fun (content, rest) => (.string content, rest)
  else if c = idiom.identifierQuote.char then
    (readQuoted c false rest).map fun (name, rest) => (.identifier name, rest)
  else if c.isAlpha || c = '_' then
    some (ofWord (c :: rest.takeWhile isWordChar), rest.dropWhile isWordChar)
  else
    match readNumeral (c :: rest) with
    | some (n, rest) => some (ofSpelling n, rest)
    | none => some (ofSymbol c, rest)

/-! ## What follows is shorter -/

/-- A code point before what was read does not change what follows. -/
theorem of_map_prepend {c : Char} {read : Option (Text × Text)} {content rest : Text}
    (h : read.map (prepend c) = some (content, rest)) :
    ∃ content', read = some (content', rest) := by
  obtain ⟨⟨content', rest'⟩, hread, heq⟩ := Option.map_eq_some_iff.mp h
  obtain ⟨-, rfl⟩ := Prod.mk.inj heq
  exact ⟨content', hread⟩

/-- The text behind a region is shorter than the text from its start on. -/
theorem readQuoted_length {q : Char} {backslash : Bool} {s content rest : Text}
    (h : readQuoted q backslash s = some (content, rest)) : rest.length < s.length := by
  -- every call goes on behind the one or two code points that it took away
  fun_induction readQuoted q backslash s generalizing content with
  | case1 => cases h
  | case2 rest' ih =>
    obtain ⟨content', hread⟩ := of_map_prepend h
    have hlength := ih hread
    simp only [List.length_cons]
    omega
  | case3 => cases h; simp
  | case4 => cases h; simp
  | case5 c hc hb d rest' ih =>
    obtain ⟨e, -, hread⟩ := Option.bind_eq_some_iff.mp h
    obtain ⟨content', hread⟩ := of_map_prepend hread
    have hlength := ih hread
    simp only [List.length_cons]
    omega
  | case6 => cases h
  | case7 c rest' hc hb ih =>
    obtain ⟨content', hread⟩ := of_map_prepend h
    have hlength := ih hread
    simp only [List.length_cons]
    omega

theorem readSign_suffix (s : Text) : (Numeral.readSign s).2 <:+ s := by
  unfold Numeral.readSign
  split
  · exact List.suffix_cons ..
  · exact List.suffix_cons ..
  · exact List.suffix_refl _

theorem readFraction_suffix (s : Text) : (readFraction s).2 <:+ s := by
  unfold readFraction
  split
  · rename_i rest
    split
    · exact List.suffix_refl _
    · exact (List.dropWhile_suffix _).trans (List.suffix_cons ..)
  · exact List.suffix_refl _

theorem readPower_suffix (s : Text) : (readPower s).2 <:+ s := by
  cases s with
  | nil => exact List.suffix_refl _
  | cons c rest =>
    unfold readPower
    simp only
    split
    · exact ((List.dropWhile_suffix _).trans (readSign_suffix rest)).trans (List.suffix_cons ..)
    · exact List.suffix_refl _

theorem readNumeral_length {s rest : Text} {n : Spelling} (h : readNumeral s = some (n, rest)) :
    rest.length < s.length := by
  have hsign : (Numeral.readSign s).2.length ≤ s.length := (readSign_suffix s).length_le
  unfold readNumeral at h
  simp only at h
  generalize (Numeral.readSign s).2 = unsigned at h hsign
  split at h
  · cases h
  · rename_i hdigits
    cases h
    have hrest : (readPower (readFraction (unsigned.dropWhile Char.isDigit)).2).2.length ≤
        (unsigned.dropWhile Char.isDigit).length :=
      ((readPower_suffix _).trans (readFraction_suffix _)).length_le
    -- the sign, the fraction and the power of ten may all be empty, but the run of digits is not
    have hsplit : (unsigned.takeWhile Char.isDigit).length +
        (unsigned.dropWhile Char.isDigit).length = unsigned.length := by
      rw [← List.length_append, List.takeWhile_append_dropWhile]
    have hwhole : 0 < (unsigned.takeWhile Char.isDigit).length := List.length_pos_iff.mpr hdigits
    omega

/-- A token takes at least its first code point away. By this measure the lexer ends. -/
theorem next_length {idiom : Idiom} {c : Char} {rest rest' : Text} {token : SqlToken}
    (h : next idiom c rest = some (token, rest')) : rest'.length ≤ rest.length := by
  unfold next at h
  split at h
  · obtain ⟨read, hread, heq⟩ := Option.map_eq_some_iff.mp h
    cases heq
    exact (readQuoted_length hread).le
  split at h
  · obtain ⟨read, hread, heq⟩ := Option.map_eq_some_iff.mp h
    cases heq
    exact (readQuoted_length hread).le
  split at h
  · cases h
    exact (List.dropWhile_suffix _).length_le
  split at h
  · rename_i hread
    cases h
    exact Nat.le_of_lt_succ (readNumeral_length hread)
  · cases h
    exact le_rfl

end Lexer

/-- The tokens of a text, in order. -/
def lex (idiom : Idiom) (s : Text) : Option (List SqlToken) :=
  match s with
  | [] => some []
  | c :: rest =>
    if Text.isBlank c then lex idiom rest
    else
      match h : Lexer.next idiom c rest with
      | none => none
      | some (token, rest') =>
        have := Lexer.next_length h
        (lex idiom rest').map (token :: ·)
termination_by s.length
decreasing_by
  · simp
  · simp only [List.length_cons]
    omega

theorem lex_blank {idiom : Idiom} {c : Char} (h : Text.isBlank c = true) (rest : Text) :
    lex idiom (c :: rest) = lex idiom rest := by
  rw [lex.eq_def]
  exact if_pos h

theorem lex_token {idiom : Idiom} {c : Char} {rest rest' : Text} {token : SqlToken}
    (hblank : Text.isBlank c = false) (h : Lexer.next idiom c rest = some (token, rest')) :
    lex idiom (c :: rest) = (lex idiom rest').map (token :: ·) := by
  rw [lex.eq_def]
  simp only [hblank, Bool.false_eq_true, if_false]
  split
  · rename_i hnone
    cases hnone.symm.trans h
  · rename_i hsome
    cases hsome.symm.trans h
    rfl

end SqlTemplate
