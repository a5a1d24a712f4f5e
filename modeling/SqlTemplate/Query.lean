import SqlTemplate.Escaper
import SqlTemplate.Fragment
import SqlTemplate.Options
import SqlTemplate.Template.Token

/-!
# Filling in a template

The placeholders of a template take the arguments in order. Each argument is written the way its
placeholder asks for, and an argument that asks to skip leaves the skip marker. Whether there are as
many arguments as placeholders is settled before the first is written.
-/

namespace SqlTemplate

/-- A template with its placeholders filled in. -/
structure Query where
  fragments : List Fragment
  placeholders : Nat
  deriving DecidableEq, Repr

namespace Query

/-- The text of the query, with the skip marker for each skipped placeholder. -/
def text (query : Query) : Text :=
  query.fragments.flatMap Fragment.text

def skipped (query : Query) : Nat :=
  query.fragments.countP fun fragment => fragment.kind = .skip

end Query

/-- Writes arguments into templates. -/
structure Builder where
  escaper : Escaper
  options : Options := {}

namespace Builder

/-- Refuses an empty collection, unless the options allow it. -/
def checkNotEmpty (builder : Builder) (specifier : Specifier) (argument : Argument) :
    Except QueryError Unit :=
  if !builder.options.allowEmptyArrays && argument.isEmptyCollection then
    .error (.emptyArray [specifier.char])
  else .ok ()

/-- Writes an argument as its specifier wants it. -/
def literal (builder : Builder) (specifier : Option Specifier) (argument : Argument) :
    Traced Text :=
  match specifier with
  | none => builder.escaper.escapeValue argument
  | some .integer => do
    let n ← .ofQuery argument.toInt
    builder.escaper.escapeValue (.ofInt n)
  | some .float => do
    let x ← .ofExcept argument.toFloat
    builder.escaper.escapeValue (.ofFloat x)
  | some .identifier => do
    .ofQuery (builder.checkNotEmpty .identifier argument)
    builder.escaper.escapeIdentifier argument
  | some .array => do
    .ofQuery (builder.checkNotEmpty .array argument)
    builder.escaper.escapeArray argument

/-- What a placeholder becomes. The request to skip is honoured before the specifier is looked
at. -/
def fillPlaceholder (builder : Builder) (specifier : Option Specifier) (position : Int)
    (argument : Argument) : Traced Fragment :=
  if argument.isSkip then pure (.skip position)
  else (⟨.literal, ·, position⟩) <$> builder.literal specifier argument

/-- The fragment that a placeholder becomes whose specifier has not been looked at. It is looked at
only if the argument does not ask to skip. -/
def fillUnchecked (builder : Builder) (specifier : Option Text) (position : Int)
    (argument : Argument) : Traced Fragment :=
  if argument.isSkip then pure (.skip position)
  else
    match specifier with
    | none => builder.fillPlaceholder none position argument
    | some name =>
      match Specifier.ofText? name with
      | some specifier => builder.fillPlaceholder (some specifier) position argument
      | none => .fail (.invalidSpecifier name position)

/-- The fragments that tokens become, each placeholder with the next argument. -/
def fillTokens (builder : Builder) : List Token → List Argument → Traced (List Fragment)
  | [], _ => pure []
  | .text content position :: tokens, arguments =>
    (⟨.text, content, position⟩ :: ·) <$> builder.fillTokens tokens arguments
  | .brace .opening position :: tokens, arguments =>
    (.opening position :: ·) <$> builder.fillTokens tokens arguments
  | .brace .closing position :: tokens, arguments =>
    (.closing position :: ·) <$> builder.fillTokens tokens arguments
  | .placeholder specifier position :: tokens, argument :: arguments => do
    let fragment ← builder.fillPlaceholder specifier position argument
    (fragment :: ·) <$> builder.fillTokens tokens arguments
  | .placeholder .. :: _, [] => .ofExcept (.error .missingArgument)

section Results

variable (builder : Builder) (tokens : List Token) (arguments : List Argument)

@[simp]
theorem result_fillTokens_nil : (builder.fillTokens [] arguments).result = .ok [] := rfl

@[simp]
theorem result_fillTokens_text (content : Text) (position : Nat) :
    (builder.fillTokens (.text content position :: tokens) arguments).result =
      (builder.fillTokens tokens arguments).result.map (⟨.text, content, position⟩ :: ·) := rfl

@[simp]
theorem result_fillTokens_opening (position : Nat) :
    (builder.fillTokens (.brace .opening position :: tokens) arguments).result =
      (builder.fillTokens tokens arguments).result.map (.opening position :: ·) := rfl

@[simp]
theorem result_fillTokens_closing (position : Nat) :
    (builder.fillTokens (.brace .closing position :: tokens) arguments).result =
      (builder.fillTokens tokens arguments).result.map (.closing position :: ·) := rfl

/-- A placeholder takes the first argument, and is filled before the tokens behind it. -/
@[simp]
theorem result_fillTokens_placeholder (specifier : Option Specifier) (position : Nat)
    (argument : Argument) :
    (builder.fillTokens (.placeholder specifier position :: tokens)
        (argument :: arguments)).result =
      (builder.fillPlaceholder specifier position argument).result >>= fun fragment =>
        (builder.fillTokens tokens arguments).result.map (fragment :: ·) :=
  Traced.result_bind ..

end Results

/-- Refuses too few arguments, and too many unless the options allow them. -/
def checkCount (builder : Builder) (expected supplied : Nat) : Except QueryError Unit :=
  if expected > supplied || expected < supplied && !builder.options.allowExtraArgs then
    .error (.argumentCount expected supplied)
  else .ok ()

/-- Fills in a template. The arguments are usually a list; any argument that can be gone through
will do. -/
def substitute (builder : Builder) (template : Text) (arguments : Argument) : Traced Query := do
  let tokens ← .ofQuery (Token.scan template)
  let arguments ← .ofExcept arguments.elements
  let expected := Token.placeholderCount tokens
  .ofQuery (builder.checkCount expected arguments.length)
  let fragments ← builder.fillTokens tokens arguments
  return ⟨fragments, expected⟩

/-- The stages of a substitution. Each is entered only if those before it have succeeded. -/
theorem result_substitute (builder : Builder) (template : Text) (arguments : Argument) :
    (builder.substitute template arguments).result = do
      let tokens ← (Token.scan template).mapError .query
      let arguments ← arguments.elements
      (builder.checkCount (Token.placeholderCount tokens) arguments.length).mapError .query
      let fragments ← (builder.fillTokens tokens arguments).result
      return ⟨fragments, Token.placeholderCount tokens⟩ := by
  simp only [substitute, Traced.result_bind, Traced.result_ofQuery, Traced.result_ofExcept,
    Traced.result_pure]
  rfl

end Builder

end SqlTemplate
