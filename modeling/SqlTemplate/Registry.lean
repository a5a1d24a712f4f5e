import SqlTemplate.Connection
import SqlTemplate.Builder
import SqlTemplate.Text.Lowercase
import Std.Data.TreeMap

/-!
# The registry of dialects

A registry knows dialects by their targets, and targets by further names. Names are compared in
lower case. Registering a target again replaces its dialect, and registering an alias again turns it
to another target; a name that is an alias is taken for one even if it is a target too.
-/

namespace SqlTemplate

/-- The dialects that are known, and the names they are known by. -/
structure Registry where
  dialects : Std.TreeMap Text Dialect
  /-- Further names, each with the target that it stands for. -/
  aliases : Std.TreeMap Text Text

namespace Registry

def empty : Registry := ⟨∅, ∅⟩

def register (registry : Registry) (target : Text) (dialect : Dialect) (aliases : List Text) :
    Registry where
  dialects := registry.dialects.insert target.lowercase dialect
  aliases := aliases.foldl (fun known name => known.insert name.lowercase target.lowercase)
    registry.aliases

/-- The target that a name is looked up as, registered or not. -/
def targetOf (registry : Registry) (name : Text) : Text :=
  registry.aliases.getD name.lowercase name.lowercase

def resolve? (registry : Registry) (name : Text) : Option Text :=
  let target := registry.targetOf name
  if registry.dialects.contains target then some target else none

/-- The registered targets, in the order of their code points. -/
def targets (registry : Registry) : List Text :=
  registry.dialects.keys

/-- The error for a name that stands for no registered target. -/
def unknown (registry : Registry) (name : Text) : QueryError :=
  .unknownTarget name registry.targets

def create (registry : Registry) (name : Text) (text : Option TextEscaper) :
    Except QueryError Escaper :=
  match registry.dialects[registry.targetOf name]? with
  | some dialect => .ok (.ofDialect dialect text)
  | none => .error (registry.unknown name)

/-- A builder whose text is escaped by a connection. The target of the options says for which
dialect, and decides the text escaper where the connection does not. -/
def builderFor (registry : Registry) (connection : Connection) (options : Options) :
    Except QueryError Builder := do
  match registry.resolve? options.target with
  | none => throw (registry.unknown options.target)
  | some target =>
    let text ← connection.textEscaper target
    -- the target is a name once more: where it is an alias as well, that alias is followed
    let escaper ← registry.create target (some text)
    return { escaper, options }

/-- The SQL that a template and its arguments make, for the dialect of the options unless another is
named. -/
def buildQuery (registry : Registry) (template : Text) (arguments : Argument)
    (connection : Connection) (dialect : Option Text) (options : Options) : Traced Text := do
  let options := match dialect with
    | some target => { options with target }
    | none => options
  let builder ← .ofQuery (registry.builderFor connection options)
  builder.build template arguments

/-- The dialects that are always registered. -/
def standard : Registry :=
  empty
    |>.register "mysql".toList .mysql ["mariadb".toList]
    |>.register "postgres".toList .postgres ["postgresql".toList]
    |>.register "sqlite".toList .sqlite []

end Registry

end SqlTemplate
