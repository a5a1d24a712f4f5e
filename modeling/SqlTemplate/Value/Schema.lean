import SqlTemplate.Argument.Conversion
import SqlTemplate.Value.Record

/-!
# Schemas of records

What the record of a value has to look like is declared, one shape at a time: the tag, the field
that goes with it and what this field holds (`Shape.model`). To check a record against its
declaration is left to a validator.
-/

namespace SqlTemplate

/-- What a part of a record has to be, by the type of what is read from it. -/
inductive Schema : Type → Type 1
  | bool : Schema Bool
  | int : Schema Int
  | float : Schema Binary64
  | text : Schema Text
  /-- Parts of one sort, as many as there are. -/
  | many {α : Type} (item : Schema α) : Schema (List α)
  /-- Two parts, each of a sort of its own. -/
  | pair {α β : Type} (first : Schema α) (second : Schema β) : Schema (α × β)
  /-- A value, or the record of one with the tag of its shape. -/
  | value : Schema SqlValue

/-- What a record has besides its tag, and the value that comes of it. -/
inductive Model : Type 1
  /-- The tag is all there is. -/
  | bare (value : SqlValue)
  /-- One field, which can be left out if it has a default. -/
  | field {α : Type} (name : Text) (schema : Schema α) (default? : Option α) (make : α → SqlValue)

namespace Model

/-- The names under which a record of the model may have something besides its tag. -/
def names : Model → List Text
  | bare _ => []
  | field name .. => [name]

open Tagged in
/-- The value comes of these entries, if each part is read as the given check reads it. -/
def Gives (check : {α : Type} → Schema α → Argument → Checked α)
    (entries : List (Argument × Argument)) (value : SqlValue) : Model → Prop
  | bare result => value = result
  | field name schema default? make =>
    ∃ content, value = make content ∧
      ((∃ item, Field name item entries ∧ check schema item = .ok content) ∨
        (∀ entry ∈ entries, ¬IsNamed name entry) ∧ default? = some content)

end Model

namespace Shape

open Tagged in
/-- The declarations. Scalars are strict about what they hold and must have it; a list or mapping
without items is empty. -/
def model : Shape → Model
  | null => .bare .null
  | bool => .field valueField .bool none .bool
  | int => .field valueField .int none .int
  | float => .field valueField .float none .float
  | text => .field valueField .text none .text
  | list => .field itemsField (.many .value) (some []) .list
  | mapping => .field itemsField (.many (.pair .text .value)) (some []) .mapping

end Shape

/-- The shape whose tag something is equal to. -/
def Conversions.shape? (c : Conversions) (mark : Argument) : Option Shape :=
  (c.text? mark).bind Shape.ofTag?

theorem Conversions.shape?_eq_some_iff {c : Conversions} {mark : Argument} {shape : Shape} :
    c.shape? mark = some shape ↔ c.text? mark = some shape.tag := by
  simp [shape?, Option.bind_eq_some_iff, Shape.ofTag?_eq_some_iff]

namespace Tagged

/-- The entries of a record: the tag of a shape, and nothing else but what is under these names. -/
structure IsRecord (c : Conversions) (shape : Shape) (names : List Text)
    (entries : List (Argument × Argument)) : Prop where
  tag : ∃ mark, Field kindField mark entries ∧ c.text? mark = some shape.tag
  known : OnlyNamed (kindField :: names) entries

variable {c : Conversions} {shape : Shape} {entries : List (Argument × Argument)}

/-- A record without a field is one with the field that happens not to be there. -/
theorem isRecord_nil_iff {name : Text} (hname : name ≠ kindField) :
    IsRecord c shape [] entries ↔
      IsRecord c shape [name] entries ∧ ∀ entry ∈ entries, ¬IsNamed name entry := by
  constructor
  · intro h
    refine ⟨⟨h.tag, fun entry hmem => ?_⟩, fun entry hmem hnamed => ?_⟩
    · obtain ⟨other, hother, hnamed⟩ := h.known entry hmem
      exact ⟨other, List.mem_append_left [name] hother, hnamed⟩
    · obtain ⟨other, hother, hnamed'⟩ := h.known entry hmem
      rw [List.mem_singleton] at hother
      exact hname (hnamed.unique (hother ▸ hnamed'))
  · rintro ⟨h, hnone⟩
    -- the field is not there, so what is known to be named is the tag
    refine ⟨h.tag, fun entry hmem => ?_⟩
    obtain ⟨other, hother, hnamed⟩ := h.known entry hmem
    rcases List.mem_cons.mp hother with rfl | hother
    · exact ⟨kindField, List.mem_singleton_self _, hnamed⟩
    · rw [List.mem_singleton] at hother
      exact absurd (hother ▸ hnamed) (hnone entry hmem)

theorem IsRecord.mono {c' : Conversions} {names : List Text} (hc : c.Within c')
    (h : IsRecord c shape names entries) : IsRecord c' shape names entries where
  tag := by
    obtain ⟨mark, hf, hmark⟩ := h.tag
    exact ⟨mark, hf, hc.text hmark⟩
  known := h.known

end Tagged

end SqlTemplate
