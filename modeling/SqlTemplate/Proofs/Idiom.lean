import SqlTemplate.Escaper

/-!
# Idioms

Whoever reads what an escaper has written has to know three things: between which quotes the
identifiers stand, whether a backslash escapes in text, and whether truth values are words or
numbers. They make up the *idiom* of the escaper. Laws about what is read back are proved of
escapers that speak an idiom (`Escaper.Speaks`); the escapers that come with the library and work
without a connection each speak one (`Vendor.speaks_standard`, `Vendor.mysql_speaks_backslash`,
`Vendor.speaks_default`).
-/

namespace SqlTemplate

/-- The quotes that a region of a query can stand between. -/
inductive Quote
  | single
  | double
  | backtick
  deriving DecidableEq, Repr

namespace Quote

def char : Quote → Char
  | single => '\''
  | double => '"'
  | backtick => '`'

def ofChar? : Char → Option Quote
  | '\'' => some single
  | '"' => some double
  | '`' => some backtick
  | _ => none

@[simp]
theorem ofChar?_char (quote : Quote) : ofChar? quote.char = some quote := by
  cases quote <;> rfl

theorem char_injective : Function.Injective char := by
  intro quote quote' h
  simpa using congrArg ofChar? h

theorem ne_char_of_ofChar? {c : Char} (h : ofChar? c = none) (quote : Quote) : c ≠ quote.char := by
  rintro rfl
  simp at h

/-- That a text is without quotes is found out by going over it. -/
theorem unquoted_of_all {s : Text} (h : (s.all fun c => ofChar? c = none) = true) :
    ∀ c ∈ s, ofChar? c = none := by
  simpa using h

end Quote

/-- What a reader has to know of the one who writes. -/
structure Idiom where
  /-- The quote that identifiers stand between. -/
  identifierQuote : Quote
  /-- Whether a backslash escapes in text. -/
  backslash : Bool
  /-- Whether truth values are words. -/
  boolWords : Bool
  deriving DecidableEq, Repr

/-- A text the way it stands between single quotes. -/
def Idiom.escaped (idiom : Idiom) (s : Text) : Text :=
  if idiom.backslash then s.flatMap TextEscaper.backslashChar else s.double Quote.single.char

/-- What the escaper writes is to be read in the idiom. -/
structure Escaper.Speaks (escaper : Escaper) (idiom : Idiom) : Prop where
  quoteIdentifier (name : Text) : escaper.dialect.quoteIdentifier name =
    Text.enclose idiom.identifierQuote.char idiom.identifierQuote.char name
  /-- Single quotes are for text. -/
  identifierQuote_ne : idiom.identifierQuote ≠ .single
  text : escaper.text = if idiom.backslash then .backslash else .standard
  boolLiteral (b : Bool) : escaper.dialect.boolLiteral b =
    if idiom.boolWords then Dialect.wordBool b else Dialect.numericBool b

/-- An escaper that speaks an idiom writes text by it, and never fails at it. -/
theorem Escaper.Speaks.result_textLiteral {escaper : Escaper} {idiom : Idiom}
    (h : escaper.Speaks idiom) (s : Text) : (escaper.textLiteral s).result =
      .ok (Quote.single.char :: (idiom.escaped s ++ [Quote.single.char])) := by
  rw [Escaper.result_textLiteral, h.text, Idiom.escaped]
  split <;> rfl

/-- The dialects that come with the library. -/
inductive Vendor
  | mysql
  | postgres
  | sqlite
  deriving DecidableEq, Repr

namespace Vendor

def dialect : Vendor → Dialect
  | mysql => .mysql
  | postgres => .postgres
  | sqlite => .sqlite

/-- The idiom of the dialect, where `backslash` says how its text is escaped. -/
def idiom (vendor : Vendor) (backslash : Bool) : Idiom where
  identifierQuote := if vendor = mysql then .backtick else .double
  backslash
  boolWords := vendor = postgres

/-- Whether text is escaped by backslashes when no text escaper is given. -/
def backslashByDefault (vendor : Vendor) : Bool :=
  vendor = mysql

theorem speaks_standard (vendor : Vendor) :
    Escaper.Speaks ⟨vendor.dialect, .standard⟩ (vendor.idiom false) := by
  cases vendor <;> exact ⟨fun _ => rfl, by decide, rfl, fun _ => rfl⟩

theorem mysql_speaks_backslash : Escaper.Speaks ⟨mysql.dialect, .backslash⟩ (mysql.idiom true) :=
  ⟨fun _ => rfl, by decide, rfl, fun _ => rfl⟩

/-- The escaper of the dialect without a connection, where `backslash` says how its text is escaped.
Only `mysql` reads what is escaped by backslashes. -/
def escaper (vendor : Vendor) (backslash : Bool) : Escaper :=
  ⟨vendor.dialect, if backslash then .backslash else .standard⟩

/-- Every pairing of a vendor with a text escaper that goes with it speaks an idiom. -/
theorem speaks (vendor : Vendor) {backslash : Bool} (h : backslash = true → vendor = mysql) :
    (vendor.escaper backslash).Speaks (vendor.idiom backslash) := by
  cases backslash with
  | true =>
    obtain rfl := h rfl
    exact mysql_speaks_backslash
  | false => exact speaks_standard vendor

/-- Without a text escaper of its own, an escaper speaks the idiom that its dialect calls for. -/
theorem speaks_default (vendor : Vendor) :
    Escaper.Speaks (.ofDialect vendor.dialect none) (vendor.idiom vendor.backslashByDefault) := by
  cases vendor with
  | mysql => exact mysql_speaks_backslash
  | postgres => exact speaks_standard postgres
  | sqlite => exact speaks_standard sqlite

end Vendor

end SqlTemplate
