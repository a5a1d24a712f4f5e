import SqlTemplate.Text.Quoted

/-!
# Errors

Everything that can be wrong with a template, its arguments or its surroundings. An error is its
cause with the data that belongs to it; code and message are functions of the cause.

Three of the causes concern the block structure of a template. They form a family of their own:
each has the position of the code point where the structure breaks.
-/

namespace SqlTemplate

/-- Why a query cannot be built. -/
inductive QueryError
  /-- A question mark is followed by a letter that names no kind of placeholder. -/
  | invalidSpecifier (specifier : Text) (position : Option Int)
  /-- A value of this kind has no SQL form in the place where it stands. -/
  | unsupportedValue (kind : String) (reason : Option String)
  /-- The template has another number of placeholders than there are arguments. -/
  | argumentCount (expected supplied : Int)
  /-- The argument of a numeric placeholder is no number. -/
  | coercion (specifier : Text) (kind : String)
  /-- An empty collection stands where the options ask for one with items. -/
  | emptyArray (specifier : Text)
  /-- A block opens inside a block. -/
  | nestedBlock (position : Int)
  /-- A block is closed that was not opened, or opened and never closed. -/
  | unbalancedBrace (brace : Text) (position : Int)
  /-- A skipped placeholder stands in no block. -/
  | skipOutsideBlock (position : Int)
  /-- No dialect is registered under this name. -/
  | unknownTarget (target : Text) (registered : List Text)
  /-- A connection of this kind has no routine that escapes text. -/
  | unsupportedConnection (kind : String)
  deriving DecidableEq, Repr

namespace QueryError

/-- The code by which a program tells errors apart. -/
def code : QueryError → String
  | invalidSpecifier .. => "INVALID_SPECIFIER"
  | unsupportedValue .. => "UNSUPPORTED_VALUE_TYPE"
  | argumentCount .. => "ARGUMENT_COUNT_MISMATCH"
  | coercion .. => "ARGUMENT_COERCION"
  | emptyArray .. => "EMPTY_ARRAY"
  | nestedBlock .. => "NESTED_BLOCK"
  | unbalancedBrace .. => "UNBALANCED_BRACE"
  | skipOutsideBlock .. => "SKIP_OUTSIDE_BLOCK"
  | unknownTarget .. => "ESCAPER_CONFIG"
  | unsupportedConnection .. => "UNSUPPORTED_CONNECTION"

def message : QueryError → String
  | invalidSpecifier specifier position =>
    let place := match position with
      | some position => s!" at position {position}."
      | none => "."
    s!"Invalid placeholder specifier '?{String.ofList specifier}'{place}"
  | unsupportedValue kind reason =>
    match reason with
    | none | some "" => s!"Unsupported value type: {kind}."
    | some reason => s!"Unsupported value type: {kind} ({reason})."
  | argumentCount expected supplied =>
    s!"Template has {expected} placeholder(s) but {supplied} argument(s) were supplied."
  | coercion specifier kind =>
    let target := if specifier = ['d'] then "integer" else "float"
    s!"Cannot coerce {kind} argument to {target} for '?{String.ofList specifier}'."
  | emptyArray specifier =>
    s!"Empty collection passed to '?{String.ofList specifier}'."
  | nestedBlock position =>
    s!"Nested conditional block at position {position}; blocks cannot be nested."
  | unbalancedBrace brace position =>
    if brace = ['{'] then s!"Conditional block opened at position {position} is never closed."
    else s!"Closing brace at position {position} has no matching '\x7b'."
  | skipOutsideBlock position =>
    s!"skip() used for a placeholder outside a conditional block (position {position})."
  | unknownTarget target registered =>
    s!"Unsupported dialect target: '{String.ofList target}'. Registered targets: " ++
      s!"{String.ofList (Text.quotedList registered)}."
  | unsupportedConnection kind =>
    s!"Connection of type {kind} has no escape_string() or real_escape_string()."

/-- Where the block structure breaks, for an error of that family. -/
def blockPosition? : QueryError → Option Int
  | nestedBlock position | unbalancedBrace _ position | skipOutsideBlock position => some position
  | _ => none

end QueryError

end SqlTemplate
