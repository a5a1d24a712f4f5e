import SqlTemplate.Query

/-!
# Outlines of arguments

The *outline* of an argument is what is left of it when its texts are blanked out: the kinds of
everything in it, its numbers and truth values, how it nests, and how long its collections are. Two
arguments with one outline differ in texts and in keys that are texts, and in nothing else. For a
placeholder that asks for identifiers even less counts, namely how names nest (`Argument.nesting`).

Arguments *look alike* to a placeholder (`LookAlike`) if they agree in what that placeholder may
look at without looking into texts. Classification goes with outlines
(`Argument.classify_outline`).
-/

namespace SqlTemplate

namespace SqlValue

mutual

/-- The value with its texts and keys blanked out. -/
def outline : SqlValue → SqlValue
  | text _ => text []
  | list items => list (outlineItems items)
  | mapping entries => mapping (outlineEntries entries)
  | null => null
  | bool value => bool value
  | int value => int value
  | float value => float value

def outlineItems : List SqlValue → List SqlValue
  | [] => []
  | item :: items => outline item :: outlineItems items

/-- The entries of a mapping with their keys and texts blanked out. -/
def outlineEntries : List (Text × SqlValue) → List (Text × SqlValue)
  | [] => []
  | (_, item) :: entries => ([], outline item) :: outlineEntries entries

end

@[simp]
theorem shape_outline (value : SqlValue) : value.outline.shape = value.shape := by
  cases value <;> rfl

end SqlValue

namespace Argument

mutual

/-- The argument with its texts blanked out. A text keeps its kind. -/
def outline : Argument → Argument
  | text member _ => text (member.map fun m => { m with name := "" }) []
  | sequence kind items => sequence kind (outlineItems items)
  | mapping kind entries => mapping kind (outlineEntries entries)
  | classified value => classified value.outline
  | null => null
  | skip => skip
  | bool value => bool value
  | int member value => int member value
  | float member value => float member value
  | decimal value => decimal value
  | fraction value => fraction value
  | complex re im => complex re im
  | bytes isBuffer content => bytes isBuffer content
  | other thing parts => other thing parts

def outlineItems : List Argument → List Argument
  | [] => []
  | item :: items => outline item :: outlineItems items

/-- The entries of a mapping with their texts blanked out, the keys among them. -/
def outlineEntries : List (Argument × Argument) → List (Argument × Argument)
  | [] => []
  | (key, item) :: entries => (outline key, outline item) :: outlineEntries entries

end

mutual

/-- How names nest in an argument. It does not matter which kinds of sequences hold them. -/
def nesting : Argument → Argument
  | text _ _ => ofText []
  | sequence _ items => ofList (nestings items)
  | argument => argument

def nestings : List Argument → List Argument
  | [] => []
  | item :: items => nesting item :: nestings items

end

/-- An outline keeps what an argument is called in messages. -/
@[simp]
theorem kind_outline (argument : Argument) : argument.outline.kind = argument.kind := by
  cases argument with
  | text member _ => cases member <;> rfl
  | classified value => simp [outline, kind]
  | _ => rfl

@[simp]
theorem isSkip_outline (argument : Argument) : argument.outline.isSkip = argument.isSkip := by
  cases argument <;> rfl

@[simp]
theorem isSkip_nesting (argument : Argument) : argument.nesting.isSkip = argument.isSkip := by
  cases argument <;> rfl

/-- An outline has as many items, so it is empty where the argument is. -/
@[simp]
theorem isEmptyCollection_outline (argument : Argument) :
    argument.outline.isEmptyCollection = argument.isEmptyCollection := by
  cases argument with
  | sequence _ items => cases items <;> rfl
  | mapping _ entries => cases entries <;> rfl
  | _ => rfl

@[simp]
theorem isEmptyCollection_nesting (argument : Argument) :
    argument.nesting.isEmptyCollection = argument.isEmptyCollection := by
  cases argument with
  | sequence _ items => cases items <;> rfl
  | _ => rfl

/-! ## Classification -/

mutual

/-- The outline of an argument is classified as the outline of its value, and fails if the argument
fails, for the same cause. -/
theorem classify_outline : ∀ argument : Argument,
    argument.outline.classify = argument.classify.map SqlValue.outline
  | sequence _ items => by
    rw [outline, classify, classify, classifyItems_outline items]
    cases classifyItems items <;> rfl
  | mapping _ entries => by
    rw [outline, classify, classify, classifyEntries_outline entries]
    cases classifyEntries entries <;> rfl
  | text .. | classified .. | null | skip | bool .. | int .. | float .. | decimal .. | fraction ..
  | complex .. | bytes .. | other .. => rfl

/-- The items of a sequence are classified to the outlines of what they are classified to. -/
theorem classifyItems_outline : ∀ items : List Argument,
    classifyItems (outlineItems items) = (classifyItems items).map SqlValue.outlineItems
  | [] => rfl
  | item :: items => by
    rw [outlineItems, classifyItems, classifyItems, classify_outline item,
      classifyItems_outline items]
    cases classify item with
    | error cause => rfl
    | ok value => cases classifyItems items <;> rfl

theorem classifyEntries_outline : ∀ entries : List (Argument × Argument),
    classifyEntries (outlineEntries entries) =
      (classifyEntries entries).map SqlValue.outlineEntries
  | [] => rfl
  | (text _ key, item) :: entries => by
    rw [outlineEntries, outline, classifyEntries, classifyEntries, classify_outline item,
      classifyEntries_outline entries]
    cases classify item with
    | error cause => rfl
    | ok value => cases classifyEntries entries <;> rfl
  | (classified value, _) :: _ => by
    simp [outlineEntries, outline, classifyEntries, kind, Except.map]
  | (sequence .., _) :: _ | (mapping .., _) :: _ | (null, _) :: _ | (skip, _) :: _
  | (bool .., _) :: _ | (int .., _) :: _ | (float .., _) :: _ | (decimal .., _) :: _
  | (fraction .., _) :: _ | (complex .., _) :: _ | (bytes .., _) :: _ | (other .., _) :: _ => rfl

end

end Argument

/-! ## What placeholders look at -/

/-- Whether two arguments look alike to a placeholder: numeric ones take their arguments as they
are, one for identifiers looks at how names nest, and the others look at outlines. -/
def LookAlike : Option Specifier → Argument → Argument → Prop
  | some .integer, a, b | some .float, a, b => a = b
  | some .identifier, a, b => a.nesting = b.nesting
  | none, a, b | some .array, a, b => a.outline = b.outline

/-- The specifiers of the placeholders among tokens, in order. -/
def Token.specifiers (tokens : List Token) : List (Option Specifier) :=
  tokens.filterMap fun
    | .placeholder specifier _ => some specifier
    | _ => none

/-- Whether two lists of arguments have one shape for the tokens: they are as long as each other,
and look alike to each placeholder. -/
def SameShape (tokens : List Token) (as bs : List Argument) : Prop :=
  as.length = bs.length ∧ ∀ slot ∈ (Token.specifiers tokens).zip (as.zip bs),
    LookAlike slot.1 slot.2.1 slot.2.2

/-- Of two arguments that look alike both are skips or none is. -/
theorem LookAlike.isSkip_eq {specifier : Option Specifier} {a b : Argument}
    (h : LookAlike specifier a b) : a.isSkip = b.isSkip := by
  match specifier, h with
  | some .integer, h | some .float, h => exact congrArg Argument.isSkip h
  | some .identifier, h => simpa using congrArg Argument.isSkip h
  | none, h | some .array, h => simpa using congrArg Argument.isSkip h

end SqlTemplate
