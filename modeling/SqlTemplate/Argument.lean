import SqlTemplate.Traced
import SqlTemplate.Value

/-!
# Arguments

An argument is whatever a caller passes for a placeholder. It may be a value of a kind that the
library knows, a number of a kind that only the numeric placeholders take, a value that is already
classified, the request to skip, or something that has no SQL form at all.

A number or text may be a member of an enumeration. It counts for what it holds, but it keeps its
type, which messages show, and it is a thing that can have fields of its own.
-/

namespace SqlTemplate

/-- The place of a number or text in an enumeration. -/
structure Member where
  /-- The name of the enumeration. -/
  type : String
  name : String
  deriving DecidableEq, Repr

/-- Whether a thing can be gone through part by part. -/
inductive Extent
  | single
  /-- It can be gone through, but not counted beforehand. -/
  | stream
  | collection
  deriving DecidableEq, Repr

/-- When two things are the same key of a mapping. -/
inductive Sameness
  /-- Never: a thing that can change is no key. -/
  | changing
  /-- If they are of one kind and look alike. -/
  | alike
  /-- If they are one and the same thing. -/
  | identical
  deriving DecidableEq, Repr

/-- A thing from outside the library, of a kind that has no SQL form. -/
structure Foreign where
  kind : String
  extent : Extent
  sameness : Sameness
  /-- How the thing is shown to a person. -/
  appearance : Text
  deriving DecidableEq, Repr

/-- What a caller passes for a placeholder. -/
inductive Argument
  | null
  /-- The request to drop the block around the placeholder. -/
  | skip
  | bool (value : Bool)
  | int (member : Option Member) (value : Int)
  | float (member : Option Member) (value : Binary64)
  | text (member : Option Member) (value : Text)
  | decimal (value : Decimal)
  | fraction (value : Rat)
  | complex (re im : Binary64)
  | sequence (kind : String) (items : List Argument)
  | mapping (kind : String) (entries : List (Argument × Argument))
  /-- A value that needs no further classification. -/
  | classified (value : SqlValue)
  /-- Bytes, which may be changeable in place. -/
  | bytes (isBuffer : Bool) (content : List UInt8)
  /-- Something without an SQL form, and its parts if it can be gone through. -/
  | other (thing : Foreign) (parts : List Argument)

namespace Argument

def ofText (s : Text) : Argument := .text none s

def ofInt (n : Int) : Argument := .int none n

def ofFloat (x : Binary64) : Argument := .float none x

def ofList (items : List Argument) : Argument := .sequence "list" items

def ofTuple (items : List Argument) : Argument := .sequence "tuple" items

def kind : Argument → String
  | null => "NoneType"
  | skip => "Skip"
  | bool _ => "bool"
  | int member _ => member.elim "int" Member.type
  | float member _ => member.elim "float" Member.type
  | text member _ => member.elim "str" Member.type
  | sequence kind _ | mapping kind _ => kind
  | decimal _ => "Decimal"
  | fraction _ => "Fraction"
  | complex .. => "complex"
  | classified value => value.shape.kind
  | bytes isBuffer _ => if isBuffer then "bytearray" else "bytes"
  | other thing _ => thing.kind

/-- Whether the argument asks to skip. A text that looks like the mark of a skip does not. -/
def isSkip : Argument → Bool
  | skip => true
  | _ => false

theorem isSkip_iff {argument : Argument} : argument.isSkip = true ↔ argument = skip := by
  cases argument <;> simp [isSkip]

/-- Whether the argument is a collection without items. A classified value is not asked. -/
def isEmptyCollection : Argument → Bool
  | sequence _ items => items.isEmpty
  | mapping _ entries => entries.isEmpty
  | _ => false

/-- Whether the argument counts as true: numbers other than zero, texts and collections that are not
empty, and everything else but null. -/
def truth : Argument → Bool
  | null => false
  | bool value => value
  | int _ value => value != 0
  | float _ value => value.isNonzero
  | text _ value => !value.isEmpty
  | decimal value => value.isNonzero
  | fraction value => value.num != 0
  | complex re im => re.isNonzero || im.isNonzero
  | sequence _ items => !items.isEmpty
  | mapping _ entries => !entries.isEmpty
  | bytes _ content => !content.isEmpty
  | other thing parts => thing.extent != .collection || !parts.isEmpty
  | skip | classified _ => true

/-- Whether the argument is a thing that can have fields of its own. Values of the plain kinds
cannot. -/
def hasFields : Argument → Bool
  | skip | decimal _ | fraction _ | classified _ => true
  | int member _ | float member _ | text member _ => member.isSome
  | _ => false

/-- A classified value as the names of its fields and what they hold. -/
def fieldsOf (value : SqlValue) : List (Text × Argument) :=
  ("kind".toList, ofText value.shape.tag) ::
    match value with
    | .null => []
    | .bool b => [("value".toList, .bool b)]
    | .int n => [("value".toList, ofInt n)]
    | .float x => [("value".toList, ofFloat x)]
    | .text s => [("value".toList, ofText s)]
    | .list items => [("items".toList, ofTuple (items.map .classified))]
    | .mapping entries =>
      [("items".toList,
        ofTuple (entries.map fun (key, item) => ofTuple [ofText key, .classified item]))]

/-- The arguments that a single argument stands for, where it is passed in place of their list: the
items of a sequence, the characters of a text, the keys of a mapping. -/
def elements : Argument → Except Fault (List Argument)
  | sequence _ items => .ok items
  | text _ value => .ok (value.map fun c => ofText [c])
  | mapping _ entries => .ok (entries.map (·.1))
  | classified value =>
    .ok ((fieldsOf value).map fun (name, field) => ofTuple [ofText name, field])
  | bytes _ content => .ok (content.map fun b => ofInt b.toNat)
  | other thing parts =>
    if thing.extent = .single then .error (.notIterable thing.kind) else .ok parts
  | argument => .error (.notIterable argument.kind)

end Argument

end SqlTemplate
