import SqlTemplate.Block
import SqlTemplate.Query

/-!
# Building queries

A build fills in the template and then resolves its blocks. It can be watched: each build that
succeeds, and each that fails for a cause of the library, is an event.
-/

namespace SqlTemplate

/-- A finished build. -/
structure Build where
  query : Query
  resolution : Resolution
  deriving DecidableEq, Repr

/-- What an onlooker learns of a build. -/
inductive Event
  | built (dialect : Text) (placeholders skipped dropped : Nat)
  | failed (dialect : Text) (code : String)
  deriving DecidableEq, Repr

namespace Builder

/-- Substitutes the arguments into a template, and resolves its blocks. -/
def run (builder : Builder) (template : Text) (arguments : Argument) : Traced Build := do
  let query ← builder.substitute template arguments
  let resolution ← .ofQuery (Resolution.ofFragments query.fragments)
  return ⟨query, resolution⟩

/-- The SQL that a template and its arguments make. -/
def build (builder : Builder) (template : Text) (arguments : Argument) : Traced Text :=
  (·.resolution.sql) <$> builder.run template arguments

theorem result_run (builder : Builder) (template : Text) (arguments : Argument) :
    (builder.run template arguments).result =
      (builder.substitute template arguments).result >>= fun query =>
        ((Resolution.ofFragments query.fragments).mapError .query).map (⟨query, ·⟩) := by
  simp only [run, Traced.result_bind, Traced.result_ofQuery, Traced.result_pure]
  rfl

theorem result_build (builder : Builder) (template : Text) (arguments : Argument) :
    (builder.build template arguments).result =
      (builder.run template arguments).result.map (·.resolution.sql) := rfl

/-- The event that a build is. One that is stopped by its surroundings is none. -/
def event? (builder : Builder) (result : Except Fault Build) : Option Event :=
  match result with
  | .ok build =>
    some (.built builder.escaper.dialect.name build.query.placeholders build.query.skipped
      build.resolution.dropped)
  | .error (.query error) => some (.failed builder.escaper.dialect.name error.code)
  | .error _ => none

end Builder

end SqlTemplate
