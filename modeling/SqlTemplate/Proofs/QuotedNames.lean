import SqlTemplate.Proofs.Flattening
import SqlTemplate.Proofs.ReadBack

/-!
# Quoted names are read back

Names are written between quotes, with a comma and a blank between neighbours, and a list without
items leaves an empty place. A reader who knows the quote finds the places again, and stops behind
the last one (`Lexer.readPlaces_commaSeparated`). A name may hold quotes, commas and blanks in any
order: a quote in it is written twice, and so it is never taken for the end of the name.

Without empty lists, the SQL of nested names therefore says which names they are
(`readPlaces_identifier`).
-/

namespace SqlTemplate

namespace Lexer

/-- The place for a name that stands first, and what follows it. A place that does not begin with a
quote is empty. -/
def readPlace (q : Char) : Text → Option (Option Text × Text)
  | [] => some (none, [])
  | c :: rest =>
    if c = q then (readQuoted q false rest).map fun (name, rest) => (some name, rest)
    else some (none, c :: rest)

theorem readPlace_length {q : Char} {s rest : Text} {place : Option Text}
    (h : readPlace q s = some (place, rest)) : rest.length ≤ s.length := by
  unfold readPlace at h
  split at h
  · cases h
    exact le_rfl
  · split at h
    · obtain ⟨⟨name, rest'⟩, hread, heq⟩ := Option.map_eq_some_iff.mp h
      cases heq
      exact (readQuoted_length hread).le.trans (Nat.le_succ _)
    · cases h
      exact le_rfl

/-- The places for names that stand first, with a comma and a blank between neighbours, and what
follows the last one. -/
def readPlaces (q : Char) (s : Text) : Option (List (Option Text) × Text) :=
  match h : readPlace q s with
  | none => none
  | some (place, ',' :: ' ' :: rest) =>
    have := readPlace_length h
    (readPlaces q rest).map fun (places, rest) => (place :: places, rest)
  | some (place, rest) => some ([place], rest)
termination_by s.length
decreasing_by
  simp only [List.length_cons] at this
  omega

section

variable {q : Char} {s rest : Text} {place : Option Text}

/-- With a comma and a blank behind it, a place has another one behind it. -/
theorem readPlaces_more (h : readPlace q s = some (place, ',' :: ' ' :: rest)) :
    readPlaces q s = (readPlaces q rest).map fun (places, rest) => (place :: places, rest) := by
  -- of the three ways to go on, what follows the place leaves one
  rw [readPlaces.eq_def]
  split
  · rename_i hnone
    cases hnone.symm.trans h
  · rename_i hsome
    cases hsome.symm.trans h
    rfl
  · rename_i hother hsome
    cases hsome.symm.trans h
    exact absurd rfl (hother _)

/-- Without a comma behind it, a place is the last one. -/
theorem readPlaces_last (h : readPlace q s = some (place, rest))
    (hrest : ∀ c ∈ rest.head?, c ≠ ',') : readPlaces q s = some ([place], rest) := by
  rw [readPlaces.eq_def]
  split
  · rename_i hnone
    cases hnone.symm.trans h
  · rename_i hsome
    cases hsome.symm.trans h
    exact absurd rfl (hrest ',' rfl)
  · rename_i hsome
    cases hsome.symm.trans h
    rfl

end

/-! ## What is written is read -/

variable {dialect : Dialect} {q : Char} {rest : Text}

/-- A place is read as it was written, up to the quote that ends it. -/
theorem readPlace_writePlace (hquote : ∀ name, dialect.quoteIdentifier name = Text.enclose q q name)
    (hrest : ∀ c ∈ rest.head?, c ≠ q) (place : Option Text) :
    readPlace q (dialect.writePlace place ++ rest) = some (place, rest) := by
  cases place with
  | none =>
    show readPlace q rest = _
    cases rest with
    | nil => rfl
    | cons c rest => rw [readPlace, if_neg (hrest c rfl)]
  | some name =>
    show readPlace q (dialect.quoteIdentifier name ++ rest) = _
    rw [hquote, Text.enclose, List.cons_append, readPlace, if_pos rfl, List.append_assoc,
      List.singleton_append, readQuoted_double hrest]
    rfl

/-- Places are read up to a text that goes on with neither a quote nor a comma. -/
theorem readPlaces_commaSeparated (hq : q ≠ ',')
    (hquote : ∀ name, dialect.quoteIdentifier name = Text.enclose q q name)
    (hrest : ∀ c ∈ rest.head?, c ≠ q ∧ c ≠ ',') {places : List (Option Text)} (hne : places ≠ []) :
    readPlaces q (Text.commaSeparated (places.map dialect.writePlace) ++ rest) =
      some (places, rest) := by
  induction places with
  | nil => exact absurd rfl hne
  | cons place places ih =>
    rw [List.map_cons]
    cases places with
    | nil =>
      rw [List.map_nil, Text.commaSeparated_singleton]
      have hplace := readPlace_writePlace hquote (fun c hc => (hrest c hc).1) place
      exact readPlaces_last hplace fun c hc => (hrest c hc).2
    | cons next places =>
      have hmore : (next :: places).map dialect.writePlace ≠ [] := List.cons_ne_nil _ _
      rw [Text.commaSeparated_cons hmore, List.append_assoc, List.append_assoc]
      generalize htail : Text.commaSeparated ((next :: places).map dialect.writePlace) ++ rest = tail
      rw [htail] at ih
      -- the comma behind the first place is no quote, and so it ends the place
      have hcomma : ∀ c ∈ (',' :: ' ' :: tail).head?, c ≠ q := by
        rintro c ⟨⟩
        exact hq.symm
      have hplace := readPlace_writePlace hquote hcomma place
      calc readPlaces q (dialect.writePlace place ++ ',' :: ' ' :: tail)
          = (readPlaces q tail).map fun (places, rest) => (place :: places, rest) :=
            readPlaces_more hplace
        _ = some (place :: next :: places, rest) := by
            rw [ih (List.cons_ne_nil _ _)]
            rfl

end Lexer

/-! ## What the library writes -/

namespace Vendor

/-- The quote that identifiers stand between in the dialect. -/
def quote : Vendor → Char
  | mysql => '`'
  | postgres | sqlite => '"'

variable {vendor : Vendor}

theorem quoteIdentifier_eq (name : Text) :
    vendor.dialect.quoteIdentifier name = Text.enclose vendor.quote vendor.quote name := by
  cases vendor <;> rfl

theorem quote_ne_comma : vendor.quote ≠ ',' := by
  cases vendor <;> decide

/-- The places of names are written, and they are read back up to what does not continue them. -/
theorem exists_readPlaces (vendor : Vendor) (text : TextEscaper) {argument : Argument}
    {places : List (Option Text)} (h : argument.places = .ok places) :
    ∃ s, ((⟨vendor.dialect, text⟩ : Escaper).escapeIdentifier argument).result = .ok s ∧
      ∀ rest : Text, (∀ c ∈ rest.head?, c ≠ vendor.quote ∧ c ≠ ',') →
        Lexer.readPlaces vendor.quote (s ++ rest) = some (places, rest) := by
  have hplaces : SameOutcome _ ((⟨vendor.dialect, text⟩ : Escaper).identifier argument) _ :=
    Escaper.identifier_sameOutcome_places argument
  rw [h] at hplaces
  obtain ⟨s, hs, hjoins⟩ := hplaces.exists_of_ok
  refine ⟨s, ?_, fun rest hrest => ?_⟩
  · rw [Escaper.escapeIdentifier, Traced.result_ofQuery, hs]
    rfl
  · have hne : places ≠ [] := mt List.map_eq_nil_iff.mpr hjoins.ne_nil
    rw [hjoins.eq]
    exact Lexer.readPlaces_commaSeparated quote_ne_comma quoteIdentifier_eq hrest hne

end Vendor

/-- **Quoted names are read back.** In each dialect, the SQL of nested names is read as the names in
order, with an empty place for each list without items, and the reader stops in front of whatever
follows, unless that is a quote or a comma. So without empty lists, two arguments are written alike
exactly if they nest the same names. -/
theorem readPlaces_identifier (vendor : Vendor) (text : TextEscaper) :
    let escaper : Escaper := ⟨vendor.dialect, text⟩
    (∀ (argument : Argument) (places : List (Option Text)), argument.places = .ok places →
      ∃ s, (escaper.escapeIdentifier argument).result = .ok s ∧
        ∀ rest : Text, (∀ c ∈ rest.head?, c ≠ vendor.quote ∧ c ≠ ',') →
          Lexer.readPlaces vendor.quote (s ++ rest) = some (places, rest)) ∧
    ∀ (argument argument' : Argument) (names names' : List Text),
      argument.places = .ok (names.map some) → argument'.places = .ok (names'.map some) →
      ((escaper.escapeIdentifier argument).result = (escaper.escapeIdentifier argument').result ↔
        names = names') := by
  intro escaper
  refine ⟨fun _ _ h => Vendor.exists_readPlaces vendor text h, ?_⟩
  intro argument argument' names names' h h'
  constructor
  · -- one SQL is read in one way only
    intro hsame
    obtain ⟨s, hs, hread⟩ := Vendor.exists_readPlaces vendor text h
    obtain ⟨s', hs', hread'⟩ := Vendor.exists_readPlaces vendor text h'
    obtain rfl : s = s' := Except.ok.inj (hs.symm.trans (hsame.trans hs'))
    have hplaces := Option.some.inj ((hread [] nofun).symm.trans (hread' [] nofun))
    exact List.map_injective_iff.mpr (Option.some_injective _) (congrArg Prod.fst hplaces)
  · rintro rfl
    rw [Escaper.escapeIdentifier, Escaper.escapeIdentifier, Escaper.identifier_of_names h,
      Escaper.identifier_of_names h']

/-- A name that looks like two is read as one, and so is a name that is a quote; an empty list
leaves a gap. -/
theorem readPlaces_identifier_of_separator :
    let escaper : Escaper := .ofDialect .mysql none
    let one : Argument := .ofTuple [.ofText "a`, `b".toList]
    let two : Argument := .ofList [.ofText ['a'], .ofList [.ofText ['b']]]
    let gap : Argument := .ofList [.ofText ['`'], .ofList [], .ofText ['c']]
    (escaper.escapeIdentifier one).result ≠ (escaper.escapeIdentifier two).result ∧
      ∃ s, (escaper.escapeIdentifier gap).result = .ok s ∧
        Lexer.readPlaces '`' (s ++ " = 1".toList) =
          some ([some ['`'], none, some ['c']], " = 1".toList) := by
  intro escaper one two gap
  obtain ⟨hread, hsame⟩ := readPlaces_identifier .mysql escaper.text
  constructor
  · have hnames := hsame one two ["a`, `b".toList] [['a'], ['b']] rfl rfl
    exact mt hnames.mp (by decide)
  · obtain ⟨s, hs, hrest⟩ := hread gap [some ['`'], none, some ['c']] rfl
    refine ⟨s, hs, hrest " = 1".toList ?_⟩
    rintro c ⟨⟩
    decide

end SqlTemplate
