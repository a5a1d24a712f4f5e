import Mathlib.Data.List.Chain
import SqlTemplate.Proofs.FirstFault

/-!
# Canonical lists of tokens

The lexemes of the tokens of a template, one after another, are the template again. The other way
round, not every list of tokens is what the text of its lexemes is scanned into: two texts that
stand next to each other are scanned as one, and a text that starts with a letter can give that
letter to the question mark in front of it. `Token.Canonical` leaves such lists out, and
`Token.InPlace` says that the tokens stand at the offsets where their lexemes start.

* `Scanned.canonical`, `Scanned.inPlace` and `Scanned.flatMap_lexeme` say what is known of the
  tokens of a scan.
* `scanFrom_flatMap_lexeme` scans the text of a canonical list, token by token.
* `scan_eq_iff` is both together, with the templates that cannot be scanned.
-/

namespace SqlTemplate

/-- The first value that `f` gives on the numbers below `n`. -/
theorem findSome?_range_eq_some_iff {ε : Type} {f : Nat → Option ε} {n : Nat} {e : ε} :
    (List.range n).findSome? f = some e ↔ ∃ i < n, f i = some e ∧ ∀ j < i, f j = none := by
  constructor
  · intro h
    obtain ⟨front, i, rest, hrange, hi, hfront⟩ := List.findSome?_eq_some_iff.mp h
    have hlength : front.length < n := by
      have hn := congrArg List.length hrange
      simp only [List.length_range, List.length_append, List.length_cons] at hn
      omega
    -- what stands behind `front` in the list of the numbers is their count
    have hindex : front.length = i := by
      have hget := congrArg (·[front.length]?) hrange
      simpa [hlength] using hget
    refine ⟨i, hindex ▸ hlength, hi, fun j hj => hfront j ?_⟩
    have htake : front = List.range i := by
      have hcut := congrArg (List.take front.length) hrange
      rw [List.take_left, List.take_range, Nat.min_eq_left hlength.le, hindex] at hcut
      exact hcut.symm
    rw [htake]
    exact List.mem_range.mpr hj
  · rintro ⟨i, hlt, hi, hbefore⟩
    obtain ⟨k, rfl⟩ : ∃ k, n = i + (k + 1) := ⟨n - i - 1, by omega⟩
    have hnone : (List.range i).findSome? f = none :=
      List.findSome?_eq_none_iff.mpr fun j hj => hbefore j (List.mem_range.mp hj)
    rw [List.range_add, List.findSome?_append, hnone, List.range_succ_eq_map]
    simp [hi]

namespace Token

/-- A token that can stand in a canonical list. A text is not empty, and holds no code point that
means something in a template. -/
def WellMade : Token → Prop
  | text content _ => content ≠ [] ∧ ∀ c ∈ content, c ≠ '?' ∧ c ≠ '{' ∧ c ≠ '}'
  | placeholder .. | brace .. => True

/-- Whether a token may stand directly in front of another one. A text may not stand in front of a
text, and a placeholder without a specifier not in front of one that starts with a specifier. -/
def MayPrecede : Token → Token → Prop
  | text .., text .. => False
  | placeholder none _, text content _ => ∀ c ∈ content.head?, ¬ (c.isAlpha ∨ c = '#')
  | _, _ => True

/-- The tokens are those of some template, whatever their offsets are. -/
structure Canonical (tokens : List Token) : Prop where
  wellMade : ∀ token ∈ tokens, token.WellMade
  chain : tokens.IsChain MayPrecede

/-- Each of the tokens starts as far behind the offset `n` as the lexemes in front of it reach. -/
def InPlace (n : Nat) (tokens : List Token) : Prop :=
  ∀ front token rest, tokens = front ++ token :: rest →
    token.position = n + (front.flatMap lexeme).length

section Lists

variable {n : Nat} {token : Token} {tokens : List Token}

theorem canonical_nil : Canonical [] :=
  ⟨nofun, .nil⟩

/-- Tokens are canonical if the first may precede the second, and the rest are. -/
theorem canonical_cons_iff : Canonical (token :: tokens) ↔
    token.WellMade ∧ (∀ next ∈ tokens.head?, MayPrecede token next) ∧ Canonical tokens := by
  constructor
  · rintro ⟨hmade, hchain⟩
    obtain ⟨hhead, htail⟩ := List.forall_mem_cons.mp hmade
    obtain ⟨hnext, hchain⟩ := List.isChain_cons.mp hchain
    exact ⟨hhead, hnext, htail, hchain⟩
  · rintro ⟨hhead, hnext, htail, hchain⟩
    exact ⟨List.forall_mem_cons.mpr ⟨hhead, htail⟩, List.isChain_cons.mpr ⟨hnext, hchain⟩⟩

theorem inPlace_nil : InPlace n [] := by
  intro front token rest h
  cases front <;> cases h

/-- Tokens are in place if the first is, and the rest start where it ends. -/
theorem inPlace_cons_iff : InPlace n (token :: tokens) ↔
    token.position = n ∧ InPlace (n + token.lexeme.length) tokens := by
  rw [InPlace, forall_eq_append_cons_iff]
  simp only [InPlace, List.flatMap_nil, List.length_nil, List.flatMap_cons, List.length_append,
    Nat.add_zero, Nat.add_assoc]

end Lists

/-! ## From templates to tokens -/

section Scans

variable {n : Nat} {c : Char} {s rest : Text} {tokens : List Token}

theorem takesForSpecifier_eq_false_iff :
    takesForSpecifier c = false ↔ ¬ (c.isAlpha ∨ c = '#') := by
  simp [takesForSpecifier]

/-- A code point of text keeps tokens canonical, because it joins text behind it. -/
theorem canonical_consText (hc : c ≠ '?' ∧ c ≠ '{' ∧ c ≠ '}') (h : Canonical tokens) (n : Nat) :
    Canonical (consText c n tokens) := by
  unfold consText
  split
  · -- the code point joins a text, and what may follow that text does not depend on it
    rename_i content position tokens
    obtain ⟨⟨-, hcontent⟩, hnext, htail⟩ := canonical_cons_iff.mp h
    refine canonical_cons_iff.mpr ⟨⟨by simp, List.forall_mem_cons.mpr ⟨hc, hcontent⟩⟩, ?_, htail⟩
    intro next hnext'
    cases next with
    | text => exact hnext _ hnext'
    | placeholder | brace => trivial
  · rename_i hother
    refine canonical_cons_iff.mpr ⟨⟨by simp, by simpa using hc⟩, ?_, h⟩
    intro next hnext
    cases next with
    | text content position =>
      obtain ⟨tail, rfl⟩ := List.head?_eq_some_iff.mp hnext
      exact (hother content position tail rfl).elim
    | placeholder | brace => trivial

/-- It keeps them in place too, if it stands right in front. -/
theorem inPlace_consText (h : InPlace (n + 1) tokens) : InPlace n (consText c n tokens) := by
  unfold consText
  split
  · obtain ⟨-, htail⟩ := inPlace_cons_iff.mp h
    refine inPlace_cons_iff.mpr ⟨rfl, ?_⟩
    rw [lexeme, List.length_cons, Nat.add_comm _ 1, ← Nat.add_assoc]
    exact htail
  · exact inPlace_cons_iff.mpr ⟨rfl, h⟩

/-- The lexemes of the tokens make up what was scanned. -/
theorem Scanned.flatMap_lexeme (h : Scanned n s tokens) : tokens.flatMap lexeme = s := by
  induction h with
  | nil => rfl
  | text _ _ ih => rw [flatMap_lexeme_consText, ih]
  | brace _ ih => rw [List.flatMap_cons, ih]; rfl
  | placeholder _ _ ih => rw [List.flatMap_cons, ih]; rfl

theorem Scanned.inPlace (h : Scanned n s tokens) : InPlace n tokens := by
  induction h with
  | nil => exact inPlace_nil
  | text _ _ ih => exact inPlace_consText ih
  | brace _ ih => exact inPlace_cons_iff.mpr ⟨rfl, ih⟩
  | placeholder _ _ ih => exact inPlace_cons_iff.mpr ⟨rfl, ih⟩

theorem Scanned.canonical (h : Scanned n s tokens) : Canonical tokens := by
  induction h with
  | nil => exact canonical_nil
  | text hc _ ih => exact canonical_consText hc ih _
  | brace _ ih => exact canonical_cons_iff.mpr ⟨trivial, fun _ _ => trivial, ih⟩
  | @placeholder n specifier rest tokens halone hrest ih =>
    refine canonical_cons_iff.mpr ⟨trivial, fun next hnext => ?_, ih⟩
    match specifier, next with
    | some _, _ | none, .placeholder .. | none, .brace .. => trivial
    | none, .text content position =>
      obtain ⟨tail, rfl⟩ := List.head?_eq_some_iff.mp hnext
      intro c hc
      -- the text starts what follows the question mark
      have hhead : c ∈ rest.head? := by
        rw [← hrest.flatMap_lexeme, List.flatMap_cons, List.head?_append, lexeme, hc]
        rfl
      exact takesForSpecifier_eq_false_iff.mp (halone rfl c hhead)

/-! ## From tokens to templates -/

theorem lexeme_ne_nil {token : Token} (h : token.WellMade) : token.lexeme ≠ [] := by
  cases token with
  | text content position => exact h.1
  | placeholder | brace => simp [lexeme]

/-- What follows a placeholder without a specifier in a canonical list does not begin with one. -/
theorem Canonical.standsAlone {position : Nat}
    (h : Canonical (placeholder none position :: tokens)) :
    StandsAlone (tokens.flatMap lexeme) := by
  obtain ⟨-, hnext, hrest⟩ := canonical_cons_iff.mp h
  cases tokens with
  | nil => exact nofun
  | cons next tokens =>
    have hmade : next.WellMade := hrest.wellMade next List.mem_cons_self
    intro c hc
    rw [List.flatMap_cons, List.head?_append_of_ne_nil _ (lexeme_ne_nil hmade)] at hc
    cases next with
    | text content position => exact takesForSpecifier_eq_false_iff.mpr (hnext _ rfl c hc)
    | placeholder => cases hc; rfl
    | brace b => cases hc; cases b <;> rfl

/-- A text in front of tokens of which the first is no text is one token of its own. -/
theorem scanFrom_text_append {content : Text} (hne : content ≠ [])
    (hplain : ∀ c ∈ content, c ≠ '?' ∧ c ≠ '{' ∧ c ≠ '}')
    (hscan : scanFrom (n + content.length) rest = .ok tokens)
    (hnext : ∀ next ∈ tokens.head?, MayPrecede (text content n) next) :
    scanFrom n (content ++ rest) = .ok (text content n :: tokens) := by
  induction content generalizing n with
  | nil => exact absurd rfl hne
  | cons c content ih =>
    obtain ⟨hc, hcontent⟩ := List.forall_mem_cons.mp hplain
    rw [List.cons_append, scanFrom_text hc.1 hc.2.1 hc.2.2]
    cases content with
    | nil =>
      rw [List.nil_append]
      rw [List.length_singleton] at hscan
      rw [hscan]
      -- the code point is the whole text, so it must not join what follows
      match tokens, hnext with
      | [], _ | .placeholder .. :: _, _ | .brace .. :: _, _ => rfl
      | .text content position :: _, hnext => exact (hnext _ rfl).elim
    | cons d content =>
      have hscan' : scanFrom (n + 1 + (d :: content).length) rest = .ok tokens := by
        rw [Nat.add_assoc, Nat.add_comm 1]
        exact hscan
      have hnext' : ∀ next ∈ tokens.head?, MayPrecede (text (d :: content) (n + 1)) next := by
        intro next hmem
        have hmay := hnext next hmem
        cases next with
        | text => exact hmay
        | placeholder | brace => trivial
      rw [ih (by simp) hcontent hscan' hnext']
      rfl

/-- The text of a canonical list is scanned into the list. -/
theorem scanFrom_flatMap_lexeme (h : Canonical tokens) (hplace : InPlace n tokens) :
    scanFrom n (tokens.flatMap lexeme) = .ok tokens := by
  induction tokens generalizing n with
  | nil => rfl
  | cons token tokens ih =>
    obtain ⟨hmade, hnext, hcanonical⟩ := canonical_cons_iff.mp h
    obtain ⟨rfl, hplace⟩ := inPlace_cons_iff.mp hplace
    have hrest := ih hcanonical hplace
    rw [List.flatMap_cons]
    cases token with
    | text content position => exact scanFrom_text_append hmade.1 hmade.2 hrest hnext
    | brace b position =>
      show scanFrom position (b.char :: tokens.flatMap lexeme) = _
      rw [scanFrom_brace]
      exact congrArg (Except.map _) hrest
    | placeholder specifier position =>
      -- canonical tokens put nothing behind a bare question mark that it would take
      have halone : specifier = none → StandsAlone (tokens.flatMap lexeme) := by
        rintro rfl
        exact h.standsAlone
      show scanFrom position (mark specifier ++ tokens.flatMap lexeme) = _
      rw [scanFrom_mark halone]
      exact congrArg (Except.map _) hrest

end Scans

/-! ## Templates that cannot be scanned -/

/-- At the offset of the template there is a question mark, directly followed by the letter `c`,
which is no specifier. -/
def InvalidAt (template : Text) (i : Nat) (c : Char) : Prop :=
  template[i]? = some '?' ∧ template[i + 1]? = some c ∧ c.isAlpha ∧ c ∉ ['d', 'f', 'a']

/-- An invalid specifier is found exactly where one stands. -/
theorem invalidSpecifierAt?_eq_some_iff {template : Text} {i : Nat} {error : QueryError} :
    invalidSpecifierAt? template i = some error ↔
      ∃ c, InvalidAt template i c ∧ error = .invalidSpecifier [c] (some i) := by
  -- both sides look at the same two code points
  have hget : template[i]? = (template.drop i)[0]? := by rw [List.getElem?_drop, Nat.add_zero]
  have hnext : template[i + 1]? = (template.drop i)[1]? := by rw [List.getElem?_drop]
  simp only [invalidSpecifierAt?, InvalidAt, hget, hnext]
  split
  · rename_i c rest h
    have hletter : ∀ c', (template.drop i)[1]? = some c' → c = c' := by
      intro c' hc'
      rw [h] at hc'
      exact Option.some.inj hc'
    split
    · rename_i hc
      constructor
      · rintro ⟨⟩
        exact ⟨c, ⟨by rw [h]; rfl, by rw [h]; rfl, hc⟩, rfl⟩
      · rintro ⟨c', ⟨-, hc', -⟩, rfl⟩
        rw [hletter c' hc']
    · rename_i hc
      refine iff_of_false (Option.some_ne_none error).symm ?_
      rintro ⟨c', ⟨-, hc', hinvalid⟩, -⟩
      exact hc (hletter c' hc' ▸ hinvalid)
  · rename_i hother
    refine iff_of_false (Option.some_ne_none error).symm ?_
    rintro ⟨c, ⟨hmark, hletter, -⟩, -⟩
    cases hdrop : template.drop i with
    | nil => simp [hdrop] at hmark
    | cons d rest =>
      rw [hdrop] at hmark hletter
      cases rest with
      | nil => cases hletter
      | cons d' rest => exact hother d' rest (by rw [hdrop, Option.some.inj hmark])

theorem invalidSpecifierAt?_eq_none_iff {template : Text} {i : Nat} :
    invalidSpecifierAt? template i = none ↔ ∀ c, ¬ InvalidAt template i c := by
  rw [Option.eq_none_iff_forall_ne_some]
  constructor
  · intro h c hc
    exact h _ (invalidSpecifierAt?_eq_some_iff.mpr ⟨c, hc, rfl⟩)
  · intro h error herror
    obtain ⟨c, hc, -⟩ := invalidSpecifierAt?_eq_some_iff.mp herror
    exact h c hc

/-- The error of a scan is that of the first question mark that takes a letter for nothing. -/
theorem scan_eq_error_iff {template : Text} {error : QueryError} :
    scan template = .error error ↔
      ∃ i c, InvalidAt template i c ∧ (∀ j < i, ∀ d, ¬ InvalidAt template j d) ∧
        error = .invalidSpecifier [c] (some i) := by
  -- the scan is stopped by the first offset that is at fault, and at each there is one fault at
  -- most
  have hfault : fault? (scan template) = firstFault? invalidSpecifierAt? template := by
    rw [scan, fault?_scanFrom List.drop_zero, firstFault?_eq]
  have herror : scan template = .error error ↔ fault? (scan template) = some error := by
    cases scan template <;> simp [fault?]
  rw [herror, hfault, firstFault?, findSome?_range_eq_some_iff]
  constructor
  · rintro ⟨i, -, hi, hbefore⟩
    obtain ⟨c, hc, rfl⟩ := invalidSpecifierAt?_eq_some_iff.mp hi
    exact ⟨i, c, hc, fun j hj => invalidSpecifierAt?_eq_none_iff.mp (hbefore j hj), rfl⟩
  · rintro ⟨i, c, hc, hbefore, rfl⟩
    have hlt : i < template.length := (List.getElem?_eq_some_iff.mp hc.1).1
    exact ⟨i, hlt, invalidSpecifierAt?_eq_some_iff.mpr ⟨c, hc, rfl⟩,
      fun j hj => invalidSpecifierAt?_eq_none_iff.mpr (hbefore j hj)⟩

/-- **Scanning undoes writing the lexemes down.** Tokens are those of a template exactly if their
lexemes make up the template, they stand where their lexemes start, and they are canonical. A
template has no tokens exactly if a question mark in it is directly followed by a letter that is no
specifier. The error then names the letter behind the first such question mark, and where that
stands. -/
theorem scan_eq_iff (template : Text) :
    (∀ tokens, scan template = .ok tokens ↔
      tokens.flatMap lexeme = template ∧ InPlace 0 tokens ∧ Canonical tokens) ∧
    ∀ error, scan template = .error error ↔
      ∃ i c, InvalidAt template i c ∧ (∀ j < i, ∀ d, ¬ InvalidAt template j d) ∧
        error = .invalidSpecifier [c] (some i) := by
  refine ⟨fun tokens => ⟨fun h => ?_, ?_⟩, fun error => scan_eq_error_iff⟩
  · have hscanned : Scanned 0 template tokens := scanned_of_scanFrom h
    exact ⟨hscanned.flatMap_lexeme, hscanned.inPlace, hscanned.canonical⟩
  · rintro ⟨rfl, hplace, hcanonical⟩
    exact scanFrom_flatMap_lexeme hcanonical hplace

/-- Letters that are not of ASCII are text, and the question mark in front of one stands alone. -/
example : scan "?é??d?#d?".toList = .ok [.placeholder none 0, .text ['é'] 1, .placeholder none 2,
    .placeholder (some .integer) 3, .placeholder (some .identifier) 5, .text ['d'] 7,
    .placeholder none 8] := by rfl

end Token

end SqlTemplate
