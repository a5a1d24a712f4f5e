import SqlTemplate.Argument

/-!
# Classification

Every argument is classified once, before anything is written. Collections are classified with all
they hold, and the first part that has no SQL form fails the whole: parts are looked at in order,
and in a mapping each key before its item.
-/

namespace SqlTemplate.Argument

mutual

/-- The value of an argument. Members of an enumeration count as the number or the text that they
are, and whatever else has no SQL form is refused. -/
def classify : Argument → Except QueryError SqlValue
  | null => .ok .null
  | classified value => .ok value
  | bool value => .ok (.bool value)
  | int _ value => .ok (.int value)
  | float _ value => .ok (.float value)
  | text _ value => .ok (.text value)
  | mapping _ entries => .mapping <$> classifyEntries entries
  | sequence _ items => .list <$> classifyItems items
  | argument => .error (.unsupportedValue argument.kind none)

/-- The values of the items of a sequence, up to the first that is refused. -/
def classifyItems : List Argument → Except QueryError (List SqlValue)
  | [] => .ok []
  | item :: items => do
    let value ← classify item
    (value :: ·) <$> classifyItems items

/-- The entries of a mapping with the values of their items. A key is looked at before its item, and
must be text. -/
def classifyEntries : List (Argument × Argument) → Except QueryError (List (Text × SqlValue))
  | [] => .ok []
  | (.text _ key, item) :: entries => do
    let value ← classify item
    ((key, value) :: ·) <$> classifyEntries entries
  | (key, _) :: _ =>
    .error (.unsupportedValue key.kind (some "mapping keys must be strings"))

end

end SqlTemplate.Argument
