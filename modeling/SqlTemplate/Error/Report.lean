import SqlTemplate.Error

/-!
# Error reports

The form in which an error leaves the program: its class with the classes above it, code, message,
and two records of details. Causes have their report; a caller can also make one for an error of
its own, which belongs to no cause.
-/

namespace SqlTemplate

/-- A piece of data that goes with an error. -/
inductive Detail
  | null
  | flag (value : Bool)
  | number (value : Int)
  | text (value : Text)
  | list (items : List Detail)
  | object (fields : List (String × Detail))

/-- An error as it is reported. -/
structure ErrorReport where
  /-- The class of the error, then the wider classes that it belongs to. -/
  classes : List String
  code : String
  message : String
  /-- What is reported with the message. -/
  details : List (String × Detail)
  /-- What a program can ask the error for. -/
  attributes : List (String × Detail)

namespace QueryError

def className : QueryError → String
  | invalidSpecifier .. => "InvalidSpecifierError"
  | unsupportedValue .. => "UnsupportedValueTypeError"
  | argumentCount .. => "ArgumentCountMismatchError"
  | coercion .. => "ArgumentCoercionError"
  | emptyArray .. => "EmptyArrayError"
  | nestedBlock .. => "NestedBlockError"
  | unbalancedBrace .. => "UnbalancedBraceError"
  | skipOutsideBlock .. => "SkipOutsideBlockError"
  | unknownTarget .. => "EscaperConfigError"
  | unsupportedConnection .. => "UnsupportedConnectionError"

def details : QueryError → List (String × Detail)
  | invalidSpecifier specifier position =>
    [("specifier", .text specifier), ("position", position.elim .null .number)]
  | unsupportedValue kind _ | unsupportedConnection kind => [("kind", .text kind.toList)]
  | argumentCount expected supplied =>
    [("expected", .number expected), ("supplied", .number supplied)]
  | coercion specifier kind => [("specifier", .text specifier), ("kind", .text kind.toList)]
  | emptyArray specifier => [("specifier", .text specifier)]
  | nestedBlock position | unbalancedBrace _ position | skipOutsideBlock position =>
    [("position", .number position)]
  | unknownTarget target registered =>
    [("target", .text target), ("registered", .list (registered.map .text))]

def attributes (e : QueryError) : List (String × Detail) :=
  match e with
  | unbalancedBrace brace _ => e.details ++ [("brace", .text brace)]
  | _ => e.details

def report (e : QueryError) : ErrorReport where
  classes :=
    e.className ::
      (if e.blockPosition?.isSome then ["TemplateSyntaxError"] else []) ++ ["SlotQLError"]
  code := e.code
  message := e.message
  details := e.details
  attributes := e.attributes

variable {e e' : QueryError}

/-- A program can tell causes apart by the code as well as by the class: errors have one of them in
common exactly if they have the other. -/
theorem code_eq_iff_className_eq : e.code = e'.code ↔ e.className = e'.className := by
  cases e <;> cases e' <;> simp [code, className]

/-- Every error of the library can be caught by the widest class, which comes last. -/
theorem getLast?_classes (e : QueryError) : e.report.classes.getLast? = some "SlotQLError" := by
  simp only [report]
  rw [List.getLast?_append]
  rfl

/-- The errors of the family for the block structure are those with the position of a block. -/
theorem templateSyntaxError_mem_classes_iff :
    "TemplateSyntaxError" ∈ e.report.classes ↔ e.blockPosition?.isSome := by
  cases e <;> simp [report, className, blockPosition?]

/-- A program can ask an error for whatever is reported with it. -/
theorem details_subset_attributes (e : QueryError) : e.report.details ⊆ e.report.attributes := by
  intro detail h
  have h : detail ∈ e.details := h
  change detail ∈ e.attributes
  unfold attributes
  split
  · exact List.mem_append_left _ h
  · exact h

/-- Where the block structure breaks is reported under a name that all errors of the family
share. -/
theorem position_mem_details {position : Int} (h : e.blockPosition? = some position) :
    ("position", .number position) ∈ e.report.details := by
  cases e <;> cases h <;> exact List.mem_singleton_self _

end QueryError

namespace ErrorReport

/-- An error of the widest class, with whatever code and details its maker chooses. -/
def general (message : String) (code : Option String) (details : List (String × Detail)) :
    ErrorReport where
  classes := ["SlotQLError"]
  code := code.getD "SLOTQL_ERROR"
  message
  details
  attributes := []

/-- A fault in the block structure that is none of the three known ones. -/
def blockStructure (message : String) (position : Int) : ErrorReport where
  classes := ["TemplateSyntaxError", "SlotQLError"]
  code := "TEMPLATE_SYNTAX"
  message
  details := [("position", .number position)]
  attributes := [("position", .number position)]

end ErrorReport

end SqlTemplate
