import SqlTemplate.Value.Validator

/-!
# Reading tagged records

A validator that goes through a record field by field and says of each fault where it lies. It is
one of many: nothing that is proved of records rests on it but that the laws of validators can be
kept, whatever things answer and however far in it goes.

The tag is looked for before anything else, in mappings as well as among the fields of a thing that
can have some. Only then is what the tag belongs to looked at, and whether it lies too far in.
-/

namespace SqlTemplate

namespace Tagged

variable {α β : Type}

def bool : Argument → Checked Bool
  | .bool b => .ok b
  | _ => .issue .notBool

def int : Argument → Checked Int
  | .int _ n => .ok n
  | _ => .issue .notInt

def text : Argument → Checked Text
  | .text _ s => .ok s
  | _ => .issue .notText

/-- The step from a sequence to one of its parts. -/
def index (i : Nat) : Text := Text.ofNat i

/-- Checks the parts of a sequence, the first of which has this index. -/
def each (check : Argument → Checked α) (i : Nat) : List Argument → Checked (List α)
  | [] => .ok []
  | part :: parts =>
    (fun (first, rest) => first :: rest) <$>
      (Checked.under (index i) (check part)).both (each check (i + 1) parts)

/-- Checks two parts. A missing part is an issue like one that is wrong, and if there are too many,
none of them is looked at. -/
def both (first : Argument → Checked α) (second : Argument → Checked β) :
    List Argument → Checked (α × β)
  | [] =>
    (Checked.under (index 0) (.issue .fieldMissing)).both
      (Checked.under (index 1) (.issue .fieldMissing))
  | [left] =>
    (Checked.under (index 0) (first left)).both (Checked.under (index 1) (.issue .fieldMissing))
  | [left, right] =>
    (Checked.under (index 0) (first left)).both (Checked.under (index 1) (second right))
  | _ => .issue .tooLong

/-- Checks things against schemas. Values are checked by the given check. -/
def checkWith (c : Conversions) (value : Argument → Checked SqlValue) :
    {α : Type} → Schema α → Argument → Checked α
  | _, .bool, argument => bool argument
  | _, .int, argument => int argument
  | _, .float, argument => (c.number? argument).elim (.issue .notFloat) .ok
  | _, .text, argument => text argument
  | _, .many item, argument =>
    (c.sequence? argument).elim (.issue .notTuple) (each (checkWith c value item) 0)
  | _, .pair first second, argument =>
    (c.sequence? argument).elim (.issue .notTuple)
      (both (checkWith c value first) (checkWith c value second))
  | _, .value, argument => value argument

/-- Reads the field of a name. If the record has none, the default stands for it. -/
def readField (check : Argument → Checked α) (name : Text) (default? : Option α)
    (entries : List (Argument × Argument)) : Checked α :=
  match field? name entries with
  | some item => (check item).under name
  | none => default?.elim (Checked.under name (.issue .fieldMissing)) .ok

/-- Reads a record by a model. Entries that are under none of its names are issues of their own,
after those of what it holds. -/
def readRecord (check : {α : Type} → Schema α → Argument → Checked α)
    (entries : List (Argument × Argument)) (model : Model) : Checked SqlValue :=
  let read : Checked SqlValue :=
    match model with
    | .bare value => .ok value
    | .field name schema default? make => make <$> readField (check schema) name default? entries
  read.adding (unknownFields (kindField :: model.names) entries)

/-- The tag that a thing has of itself, or by the further fields that go with it. -/
def tag? (thing : Argument) (fields : List (Argument × Argument)) : Option Argument :=
  (field? kindField fields).or <|
    match thing with
    | .classified value => some (.ofText value.shape.tag)
    | _ => none

/-- What stands for the tag of something. The fields of a thing that can have some may be given
together with it. -/
def mark (argument : Argument) : Checked Argument :=
  match argument with
  | .mapping _ fields => (tag? argument fields).elim (.issue .tagMissing) .ok
  | .sequence "tuple" [thing, .mapping "dict" fields] =>
    if thing.hasFields then (tag? thing fields).elim (.issue .tagMissing) .ok
    else .issue .notRecord
  | _ =>
    if argument.hasFields then (tag? argument []).elim (.issue .tagMissing) .ok
    else .issue .notRecord

/-- Reads something by its tag. -/
def dispatch (c : Conversions) (choice : Shape → Checked SqlValue) (argument : Argument) :
    Checked SqlValue := do
  let mark ← mark argument
  match c.shape? mark with
  | some shape => (choice shape).under shape.tag
  | none => .issue .tagUnknown

/-- Reads a value or the record of one, with so many records one inside the other at most. -/
def value (c : Conversions) : Nat → Argument → Checked SqlValue
  | 0, argument => dispatch c (fun _ => .issue .tooDeep) argument
  | depth + 1, argument =>
    let choice (shape : Shape) : Checked SqlValue :=
      match argument with
      | .classified value => .ok value
      | .mapping _ entries => readRecord (checkWith c (value c depth)) entries shape.model
      | _ => .issue .notPlainRecord
    dispatch c choice argument

/-- The validator that reads so many records inside one another. -/
def validator (c : Conversions) (limit : Nat) : Validator where
  conversions := c
  limit
  check depth _ schema argument := checkWith c (value c (limit - depth)) schema argument

end Tagged

end SqlTemplate
