import SqlTemplate.Registry

/-!
# Database engines

A database toolkit describes the engine that it talks to: the name of its dialect, how it quotes
identifiers, and whether a backslash escapes in its text literals. Where the registry knows the
dialect, its own escaper is taken; for any other engine, identifiers are quoted as the engine does.
-/

namespace SqlTemplate

/-- What a toolkit says about a database engine. -/
structure Engine where
  name : Text
  quoteIdentifier : Text → Text
  /-- Whether a backslash in a text literal escapes what follows. -/
  backslashEscapes : Bool

namespace Engine

/-- The dialect of an engine that the registry does not know. -/
def dialect (engine : Engine) : Dialect where
  escaperName := "SQLAlchemyEscaper"
  name := engine.name
  quoteIdentifier := engine.quoteIdentifier
  boolLiteral := Dialect.numericBool

end Engine

/-- The escaper for an engine. A text escaper that is given is used as it is. -/
def Registry.escaperFor (registry : Registry) (engine : Engine) (text : Option TextEscaper) :
    Except QueryError Escaper :=
  match registry.resolve? engine.name with
  | none => .ok ⟨engine.dialect, text.getD .standard⟩
  | some target =>
    let default : TextEscaper :=
      if target = "mysql".toList && !engine.backslashEscapes then .standard
      else .ofTarget target
    -- here too the target is a name once more
    registry.create target (some (text.getD default))

end SqlTemplate
