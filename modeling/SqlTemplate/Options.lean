import SqlTemplate.Argument.Coerce
import SqlTemplate.Fragment
import SqlTemplate.Issue
import SqlTemplate.Text.Encoding

/-!
# Build options

Options name the dialect and say which arguments a build accepts. They come as a record, in which
truth values may also be written as numbers or words. They cannot be changed once made.
-/

namespace SqlTemplate

/-- What a build accepts, and for which dialect. -/
structure Options where
  target : Text := "mysql".toList
  /-- Arguments left over after the last placeholder are ignored. -/
  allowExtraArgs : Bool := false
  /-- An empty collection is written as nothing. -/
  allowEmptyArrays : Bool := true
  deriving DecidableEq, Repr

namespace Options

def fieldNames : List Text :=
  ["target".toList, "allow_extra_args".toList, "allow_empty_arrays".toList]

/-- The text that something stands for where a text is asked for: bytes are read as UTF-8, and the
request to skip is named by its marker. -/
def asText? : Argument → Option Text
  | .text _ s => some s
  | .bytes _ content => Encoding.decodeUtf8? content
  | .skip => some skipMarker
  | _ => none

/-- A target is any text. The two issues with anything else say that it is none of the known
targets, and no other text. -/
def readTarget (argument : Argument) : Checked Text :=
  match asText? argument with
  | some target => .ok target
  | none => .error [⟨.notLiteral, ["literal['mysql','postgres','sqlite']".toList]⟩,
      ⟨.notText, ["str".toList]⟩]

def boolOfWord? (word : Text) : Option Bool :=
  if ["1", "on", "t", "true", "y", "yes"].any (·.toList == word) then some true
  else if ["0", "off", "f", "false", "n", "no"].any (·.toList == word) then some false
  else none

def readWord (s : Text) : Checked Bool :=
  match boolOfWord? (s.map Char.toLower) with
  | some b => .ok b
  | none => .issue .unreadableBool

/-- The whole number of 64 bits that a number is, if it is one. A number of a kind that is not for
whole numbers is taken for the float nearest to it. -/
def asInt64? : Argument → Option Int
  | .int _ n => if isInt64 n then some n else none
  | argument => argument.nearestFloat?.bind Binary64.toInt64?

/-- A truth value, or a number or word that stands for one. A number that is not whole, or beyond 64
bits, is not even one that could. -/
def readBool (argument : Argument) : Checked Bool :=
  match argument with
  | .bool b => .ok b
  | .text _ s => readWord s
  | .bytes false content =>
    match Encoding.decodeUtf8? content with
    | some s => readWord s
    | none => .issue .unreadableBool
  | _ =>
    match asInt64? argument with
    | some 0 => .ok false
    | some 1 => .ok true
    | some _ => .issue .unreadableBool
    | none => .issue .notBool

/-- The option under a name, or its default if the record does not have it. -/
def readField {α : Type} (record : List (Text × Argument)) (name : Text)
    (read : Argument → Checked α) (default : α) : Checked α :=
  match record.lookup name with
  | some argument => (read argument).under name
  | none => .ok default

/-- The options of a record, or all that is wrong with it: first with the options in their order,
then an issue for each name that is none. -/
def ofRecord (record : List (Text × Argument)) : Checked Options :=
  let defaults : Options := {}
  let target := readField record "target".toList readTarget defaults.target
  let extra := readField record "allow_extra_args".toList readBool defaults.allowExtraArgs
  let empty := readField record "allow_empty_arrays".toList readBool defaults.allowEmptyArrays
  let unknown := (record.map (·.1)).filter (!fieldNames.contains ·)
  (fun (target, allowExtraArgs, allowEmptyArrays) =>
    { target, allowExtraArgs, allowEmptyArrays }) <$>
    (target.both (extra.both empty)).adding (unknown.map fun name => ⟨.fieldUnknown, [name]⟩)

/-- Options do not change: whatever is put under whatever name is refused. -/
def assign (_options : Options) (name : Text) (_value : Argument) : Checked Options :=
  .error [⟨.frozen, [name]⟩]

/-- Whether the options are the ones that hold when none are given. -/
def isDefault (options : Options) : Bool :=
  options = {}

end Options

/-- Options in the making. The target is checked when they are finished. -/
structure OptionsDraft where
  target : Argument := .ofText "mysql".toList
  allowExtraArgs : Bool := false
  allowEmptyArrays : Bool := true

namespace OptionsDraft

def extraArgsAllowed (draft : OptionsDraft) : OptionsDraft :=
  { draft with allowExtraArgs := true }

def emptyArraysRejected (draft : OptionsDraft) : OptionsDraft :=
  { draft with allowEmptyArrays := false }

def finish (draft : OptionsDraft) : Checked Options :=
  Options.ofRecord [("target".toList, draft.target),
    ("allow_extra_args".toList, .bool draft.allowExtraArgs),
    ("allow_empty_arrays".toList, .bool draft.allowEmptyArrays)]

end OptionsDraft

end SqlTemplate
