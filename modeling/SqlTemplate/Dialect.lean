import SqlTemplate.Text

/-!
# Dialects

What differs between dialects of SQL: how an identifier is quoted and how a truth value is written.
-/

namespace SqlTemplate

/-- A dialect of SQL. -/
structure Dialect where
  /-- The name of the escaper type that speaks the dialect. -/
  escaperName : String
  name : Text
  quoteIdentifier : Text → Text
  boolLiteral : Bool → Text

namespace Dialect

def numericBool (b : Bool) : Text :=
  if b then ['1'] else ['0']

def wordBool (b : Bool) : Text :=
  if b then ['T', 'R', 'U', 'E'] else ['F', 'A', 'L', 'S', 'E']

def mysql : Dialect where
  escaperName := "MySQLEscaper"
  name := "mysql".toList
  quoteIdentifier := Text.enclose '`' '`'
  boolLiteral := numericBool

/-- Identifiers between double quotes. A column of truth values cannot be compared with a number, so
they are words. -/
def postgres : Dialect where
  escaperName := "PostgresEscaper"
  name := "postgres".toList
  quoteIdentifier := Text.enclose '"' '"'
  boolLiteral := wordBool

def sqlite : Dialect where
  escaperName := "SQLiteEscaper"
  name := "sqlite".toList
  quoteIdentifier := Text.enclose '"' '"'
  boolLiteral := numericBool

end Dialect

end SqlTemplate
