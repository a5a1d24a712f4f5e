import SqlTemplate.Number.Binary64

/-!
# Values

A value is an argument after it has been classified: one of the seven shapes that have an SQL form.
Lists and mappings hold values to any depth; the keys of a mapping are texts.
-/

namespace SqlTemplate

/-- An argument that has an SQL form. -/
inductive SqlValue
  | null
  | bool (value : Bool)
  | int (value : Int)
  | float (value : Binary64)
  | text (value : Text)
  | list (items : List SqlValue)
  | mapping (entries : List (Text × SqlValue))

/-- The shapes that a value can have. -/
inductive Shape
  | null
  | bool
  | int
  | float
  | text
  | list
  | mapping
  deriving DecidableEq, Repr

namespace Shape

/-- The word that stands for the shape in a record. -/
def tag : Shape → Text
  | null => "null".toList
  | bool => "bool".toList
  | int => "int".toList
  | float => "float".toList
  | text => "text".toList
  | list => "list".toList
  | mapping => "mapping".toList

/-- All shapes, in the order in which they are tried. -/
def all : List Shape := [null, bool, int, float, text, list, mapping]

def ofTag? (tag : Text) : Option Shape :=
  all.find? fun shape => shape.tag == tag

/-- A word stands for a shape exactly if it is its tag: no two shapes share one. -/
theorem ofTag?_eq_some_iff {tag : Text} {shape : Shape} :
    ofTag? tag = some shape ↔ tag = shape.tag := by
  constructor
  · intro h
    have htag := List.find?_some h
    exact (eq_of_beq htag).symm
  · rintro rfl
    cases shape <;> rfl

/-- What a value of the shape is called in messages. -/
def kind : Shape → String
  | null => "NullValue"
  | bool => "BoolValue"
  | int => "IntValue"
  | float => "FloatValue"
  | text => "TextValue"
  | list => "ListValue"
  | mapping => "MappingValue"

end Shape

def SqlValue.shape : SqlValue → Shape
  | null => .null
  | bool _ => .bool
  | int _ => .int
  | float _ => .float
  | text _ => .text
  | list _ => .list
  | mapping _ => .mapping

namespace SqlValue

mutual

/-- How many values stand inside one another, the value itself among them. -/
def height : SqlValue → Nat
  | list items => heightOfItems items + 1
  | mapping entries => heightOfEntries entries + 1
  | _ => 1

def heightOfItems : List SqlValue → Nat
  | [] => 0
  | item :: items => max (height item) (heightOfItems items)

def heightOfEntries : List (Text × SqlValue) → Nat
  | [] => 0
  | (_, item) :: entries => max (height item) (heightOfEntries entries)

end

theorem height_pos (value : SqlValue) : 0 < value.height := by
  cases value <;> simp [height]

end SqlValue

end SqlTemplate
