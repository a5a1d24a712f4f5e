import SqlTemplate.Argument.Classify
import SqlTemplate.Dialect
import SqlTemplate.Number.Shortest
import SqlTemplate.TextEscaper
import SqlTemplate.Argument.Coerce

/-!
# Escapers

An escaper writes values and identifiers in a dialect, with a text escaper for what stands between
quotes. The items of a list are separated by commas, at whatever depth they stand, and so are the
entries of a mapping, each with its key as an identifier before it.
-/

namespace SqlTemplate

/-- A dialect with the way its text is escaped. -/
structure Escaper where
  dialect : Dialect
  text : TextEscaper

namespace Escaper

/-- An escaper for a dialect. Without a text escaper of its own it takes the one that the name of
the dialect calls for. -/
def ofDialect (dialect : Dialect) (text : Option TextEscaper) : Escaper where
  dialect
  text := text.getD (.ofTarget dialect.name)

/-- The text between single quotes, as the escaping routine gives it back. -/
def textLiteral (escaper : Escaper) (s : Text) : Traced Text := do
  let escaped ← escaper.text.call s
  return '\'' :: (escaped ++ ['\''])

/-- A whole number, which may not have more digits than the limit. -/
def intLiteral (n : Int) : Traced Text :=
  if isWritable n then pure (Text.ofInt n) else .ofExcept (.error .tooManyDigits)

/-- A float in its shortest form. Infinities and NaN have no literal. -/
def floatLiteral (x : Binary64) : Traced Text :=
  if x.isFinite then pure x.toText
  else
    .fail (.unsupportedValue "float" (some s!"{String.ofList x.toText} has no SQL literal"))

mutual

/-- Writes a value. -/
def render (escaper : Escaper) : SqlValue → Traced Text
  | .null => pure ['N', 'U', 'L', 'L']
  | .bool value => pure (escaper.dialect.boolLiteral value)
  | .int value => intLiteral value
  | .float value => floatLiteral value
  | .text value => escaper.textLiteral value
  | .list items => Text.commaSeparated <$> renderItems escaper items
  | .mapping entries => Text.commaSeparated <$> renderEntries escaper entries

/-- The items of a list, in order. The first that cannot be written stops the rest. -/
def renderItems (escaper : Escaper) : List SqlValue → Traced (List Text)
  | [] => pure []
  | item :: items => do
    let written ← render escaper item
    (written :: ·) <$> renderItems escaper items

/-- The entries of a mapping, in order. An item is written before its key is put in front. -/
def renderEntries (escaper : Escaper) : List (Text × SqlValue) → Traced (List Text)
  | [] => pure []
  | (key, item) :: entries => do
    let written ← render escaper item
    let entry := escaper.dialect.quoteIdentifier key ++ [' ', '=', ' '] ++ written
    (entry :: ·) <$> renderEntries escaper entries

end

section Results

variable (escaper : Escaper) (item : SqlValue) (items : List SqlValue) (key : Text)
  (entries : List (Text × SqlValue))

@[simp]
theorem result_textLiteral (s : Text) : (escaper.textLiteral s).result =
    (escaper.text.escape s).map fun escaped => '\'' :: (escaped ++ ['\'']) :=
  Traced.result_bind ..

@[simp]
theorem result_render_list : (escaper.render (.list items)).result =
    (escaper.renderItems items).result.map Text.commaSeparated := by
  rw [render, Traced.result_map]

@[simp]
theorem result_render_mapping : (escaper.render (.mapping entries)).result =
    (escaper.renderEntries entries).result.map Text.commaSeparated := by
  rw [render, Traced.result_map]

@[simp]
theorem result_renderItems_cons : (escaper.renderItems (item :: items)).result =
    (escaper.render item).result >>= fun written =>
      (escaper.renderItems items).result.map (written :: ·) := by
  rw [renderItems, Traced.result_bind]
  rfl

@[simp]
theorem result_renderEntries_cons : (escaper.renderEntries ((key, item) :: entries)).result =
    (escaper.render item).result >>= fun written =>
      (escaper.renderEntries entries).result.map
        ((escaper.dialect.quoteIdentifier key ++ [' ', '=', ' '] ++ written) :: ·) := by
  rw [renderEntries, Traced.result_bind]
  rfl

end Results

/-- Classifies an argument and writes its value. -/
def escapeValue (escaper : Escaper) (argument : Argument) : Traced Text := do
  let value ← .ofQuery argument.classify
  escaper.render value

/-- Classifies an argument and writes its value, which has to have parts. What an argument of
another kind is called in the error is its own kind, not that of its value. -/
def escapeArray (escaper : Escaper) (argument : Argument) : Traced Text := do
  let value ← .ofQuery argument.classify
  match value with
  | .list _ | .mapping _ => escaper.render value
  | _ => .fail (.unsupportedValue argument.kind (some "expected a list or mapping"))

@[simp]
theorem result_escapeValue (escaper : Escaper) (argument : Argument) :
    (escaper.escapeValue argument).result =
      argument.classify.mapError .query >>= fun value => (escaper.render value).result :=
  Traced.result_bind ..

mutual

/-- A name between quotes, or the names of a sequence with commas between them, to any depth. -/
def identifier (escaper : Escaper) : Argument → Except QueryError Text
  | .text _ name => .ok (escaper.dialect.quoteIdentifier name)
  | .sequence _ items => Text.commaSeparated <$> identifiers escaper items
  | argument => .error (.unsupportedValue argument.kind (some "identifiers must be strings"))

def identifiers (escaper : Escaper) : List Argument → Except QueryError (List Text)
  | [] => .ok []
  | item :: items => do
    let written ← identifier escaper item
    (written :: ·) <$> identifiers escaper items

end

def escapeIdentifier (escaper : Escaper) (argument : Argument) : Traced Text :=
  .ofQuery (escaper.identifier argument)

/-- A single name between quotes. -/
def quoteName (escaper : Escaper) : Argument → Traced Text
  | .text _ name => pure (escaper.dialect.quoteIdentifier name)
  | argument => .ofExcept (.error (.notText argument.kind))

/-- Writes an argument that is classified already, and refuses any other. -/
def renderClassified (escaper : Escaper) : Argument → Traced Text
  | .classified value => escaper.render value
  | argument => .fail (.unsupportedValue argument.kind none)

end Escaper

end SqlTemplate
