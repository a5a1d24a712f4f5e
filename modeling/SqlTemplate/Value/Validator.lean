import SqlTemplate.Value.Schema

/-!
# Validators

A validator checks things against schemas. It comes from outside the library, which only relies on
the laws that it keeps (`Validator.Lawful`). They say one schema at a time what is taken for what.
Of what is refused they say nothing but that it is, so how faults are named is the validator's own
business, and so is whether it goes into more records than it promises.
-/

namespace SqlTemplate

/-- Something that checks things against schemas. -/
structure Validator where
  /-- What the things that are checked answer when they are asked. -/
  conversions : Conversions
  /-- How many records inside one another are gone into at least. A value among them, which needs no
  reading, counts for a record. -/
  limit : Nat
  /-- Checks a thing that stands in so many records. -/
  check (depth : Nat) {α : Type} (schema : Schema α) (argument : Argument) : Checked α

namespace Validator

/-- A record with the tag of a shape is read as a value: it has no other fields than the shape's
model, its part is read one record further in, and the model makes the value of it. -/
structure Reads (v : Validator) (depth : Nat) (shape : Shape)
    (entries : List (Argument × Argument)) (value : SqlValue) : Prop where
  isRecord : Tagged.IsRecord v.conversions shape shape.model.names entries
  gives : shape.model.Gives (v.check (depth + 1)) entries value

/-- The laws of a validator. -/
structure Lawful (v : Validator) : Prop where
  standard : v.conversions.Standard
  /-- Truth values are taken for nothing but themselves, and nothing else is taken for one. -/
  bool {depth : Nat} {argument : Argument} {b : Bool} :
    v.check depth .bool argument = .ok b ↔ argument = .bool b
  /-- A whole number may be a member of an enumeration. Only its number is kept. -/
  int {depth : Nat} {argument : Argument} {n : Int} :
    v.check depth .int argument = .ok n ↔ ∃ member, argument = .int member n
  /-- Whatever gives a float does for one, but for truth values. -/
  float {depth : Nat} {argument : Argument} {x : Binary64} :
    v.check depth .float argument = .ok x ↔ v.conversions.number? argument = some x
  /-- A text may be a member of an enumeration. Only its text is kept. -/
  text {depth : Nat} {argument : Argument} {s : Text} :
    v.check depth .text argument = .ok s ↔ ∃ member, argument = .text member s
  /-- Whatever does for a sequence is gone through, and each of its parts has to pass. -/
  many {α : Type} {depth : Nat} {item : Schema α} {argument : Argument} {contents : List α} :
    v.check depth (.many item) argument = .ok contents ↔
      ∃ parts, v.conversions.sequence? argument = some parts ∧
        parts.map (v.check depth item) = contents.map .ok
  /-- Two parts have to be two parts. -/
  pair {α β : Type} {depth : Nat} {first : Schema α} {second : Schema β} {argument : Argument}
    {contents : α × β} :
    v.check depth (.pair first second) argument = .ok contents ↔
      ∃ left right, v.conversions.sequence? argument = some [left, right] ∧
        v.check depth first left = .ok contents.1 ∧ v.check depth second right = .ok contents.2
  /-- What is read as a value is this value, or a mapping that is read by the model of its tag. -/
  value_sound {depth : Nat} {argument : Argument} {value : SqlValue}
    (h : v.check depth .value argument = .ok value) :
    argument = .classified value ∨
      ∃ kind entries shape, argument = .mapping kind entries ∧ v.Reads depth shape entries value
  /-- A value is left as it is, unless it is too far in. -/
  classified {depth : Nat} (hdepth : depth < v.limit) (value : SqlValue) :
    v.check depth .value (.classified value) = .ok value
  /-- A mapping is read by the model of its tag, unless it is too far in. -/
  record {depth : Nat} (hdepth : depth < v.limit) {shape : Shape}
    {entries : List (Argument × Argument)} {value : SqlValue} (kind : String)
    (h : v.Reads depth shape entries value) :
    v.check depth .value (.mapping kind entries) = .ok value

end Validator

/-- The value that a tagged record stands for, or all that is wrong with the record. -/
def SqlValue.ofTagged (validator : Validator) (record : Argument) : Checked SqlValue :=
  validator.check 0 .value record

end SqlTemplate
