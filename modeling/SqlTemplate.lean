import SqlTemplate.Argument.Key
import SqlTemplate.Builder
import SqlTemplate.Engine
import SqlTemplate.Error.Report
import SqlTemplate.Registry
import SqlTemplate.Value.Tagged
import SqlTemplate.Proofs.Canonical
import SqlTemplate.Proofs.CoercionKind
import SqlTemplate.Proofs.Composition
import SqlTemplate.Proofs.EmptyCollections
import SqlTemplate.Proofs.Filling
import SqlTemplate.Proofs.FirstFault
import SqlTemplate.Proofs.FlatBlocks
import SqlTemplate.Proofs.Flattening
import SqlTemplate.Proofs.Gate
import SqlTemplate.Proofs.HandedOver
import SqlTemplate.Proofs.History
import SqlTemplate.Proofs.Idiom
import SqlTemplate.Proofs.Injection
import SqlTemplate.Proofs.LastRegistration
import SqlTemplate.Proofs.LawfulReading
import SqlTemplate.Proofs.Leaves
import SqlTemplate.Proofs.Leftmost
import SqlTemplate.Proofs.Lexer
import SqlTemplate.Proofs.LibraryErrors
import SqlTemplate.Proofs.Lowercase
import SqlTemplate.Proofs.MappingKeys
import SqlTemplate.Proofs.Meaning
import SqlTemplate.Proofs.Moved
import SqlTemplate.Proofs.Number.Nearest
import SqlTemplate.Proofs.Number.PlainNumeral
import SqlTemplate.Proofs.Number.Printed
import SqlTemplate.Proofs.Number.Rounding
import SqlTemplate.Proofs.Number.Spelling
import SqlTemplate.Proofs.Number.WholePart
import SqlTemplate.Proofs.Offline
import SqlTemplate.Proofs.OneToken
import SqlTemplate.Proofs.OptionRecord
import SqlTemplate.Proofs.Outcome
import SqlTemplate.Proofs.Outline
import SqlTemplate.Proofs.OwnName
import SqlTemplate.Proofs.QuotedNames
import SqlTemplate.Proofs.ReadBack
import SqlTemplate.Proofs.Recast
import SqlTemplate.Proofs.Refusal
import SqlTemplate.Proofs.Run
import SqlTemplate.Proofs.SameOutcome
import SqlTemplate.Proofs.Scanned
import SqlTemplate.Proofs.Skeleton
import SqlTemplate.Proofs.Slots
import SqlTemplate.Proofs.Split
import SqlTemplate.Proofs.TaggedForm
import SqlTemplate.Proofs.Truncation
import SqlTemplate.Proofs.TwoForms
import SqlTemplate.Proofs.Unshown
import SqlTemplate.Proofs.Walk
import SqlTemplate.Proofs.WholeLiteral

/-!
# Templates of SQL

A template is SQL with placeholders. Building it puts the arguments in the places of the
placeholders, each written as a literal or identifier of the dialect, and drops the conditional
blocks in which an argument asks to be skipped.

The imports are the modules at the ends of the library, in the order of their names, and behind them
the theory in `Proofs`, in the same order:

* `Builder` goes from a template to a query: `Template.Token` takes it apart, `Query` fills the
  placeholders by way of an `Escaper`, and `Block` resolves what is left.
* `Registry` and `Engine` find the dialect by its name, and `Connection` the way to escape text.
* `Value.Tagged` reads values from records, and `Argument.Key` puts mappings together.
* `Error.Report` is how an error leaves the library.

Where to find what is proved of the whole: `Proofs.FirstFault` has the error of a build that fails,
`Proofs.Composition` the build of two templates in one, `Proofs.Injection` that no argument changes
the structure of a query, and `Proofs.ReadBack` that what is written is read back by the rules of
the dialect.
-/
