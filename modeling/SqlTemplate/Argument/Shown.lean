import SqlTemplate.Argument
import SqlTemplate.Number.Shortest
import SqlTemplate.Text.Quoted

/-!
# How arguments are shown

Where something is wrong with an entry of a record, the issue names the entry by its key. A key that
is a text or a whole number of 64 bits stands for itself, and any other is named by the form in
which it is shown to a person: texts between quotes, the parts of a collection between brackets,
numbers of the rarer kinds with the name of their kind, and members of an enumeration by name.

A whole number with more digits than may be written cannot be shown, and neither can anything that
holds one. The kind is then shown in its place.
-/

namespace SqlTemplate

def Binary64.shortText (x : Binary64) : Text :=
  let written := x.toText
  if ['.', '0'].isSuffixOf written then written.take (written.length - 2) else written

/-- A whole number, unless it has too many digits to be written. -/
def Text.ofInt? (n : Int) : Option Text :=
  if isWritable n then some (Text.ofInt n) else none

/-- Parts between parentheses. A comma tells a single part from one that is only enclosed. -/
def Text.tuple (parts : List Text) : Text :=
  '(' :: (commaSeparated parts ++ (if parts.length = 1 then [',', ')'] else [')']))

namespace SqlValue

mutual

/-- A classified value as it is shown: the name of its shape with what it is made of. -/
def shown? : SqlValue → Option Text
  | .null => some "NullValue(kind='null')".toList
  | .bool value =>
    some ("BoolValue(kind='bool', value=".toList ++
      (if value then "True)".toList else "False)".toList))
  | .int value =>
    (Text.ofInt? value).map fun written =>
      "IntValue(kind='int', value=".toList ++ written ++ [')']
  | .float value => some ("FloatValue(kind='float', value=".toList ++ value.toText ++ [')'])
  | .text value => some ("TextValue(kind='text', value=".toList ++ Text.quoted value ++ [')'])
  | .list items =>
    (shownItems? items).map fun parts =>
      "ListValue(kind='list', items=".toList ++ Text.tuple parts ++ [')']
  | .mapping entries =>
    (shownEntries? entries).map fun parts =>
      "MappingValue(kind='mapping', items=".toList ++ Text.tuple parts ++ [')']

def shownItems? : List SqlValue → Option (List Text)
  | [] => some []
  | item :: items => do
    let part ← shown? item
    (part :: ·) <$> shownItems? items

def shownEntries? : List (Text × SqlValue) → Option (List Text)
  | [] => some []
  | (key, item) :: entries => do
    let part ← shown? item
    (Text.tuple [Text.quoted key, part] :: ·) <$> shownEntries? entries

end

end SqlValue

/-- A member of an enumeration as it is shown, behind the name of its type. -/
def Member.shown (member : Member) : Text :=
  member.type.toList ++ '.' :: member.name.toList

namespace Argument

/-- A complex number as it is shown. A real part of zero is left out, unless it has a minus. -/
def complexText (re im : Binary64) : Text :=
  if re = .zero false then im.shortText ++ ['j']
  else
    let written := im.shortText
    '(' :: (re.shortText ++ (if written.head? = some '-' then written else '+' :: written) ++
      ['j', ')'])

mutual

/-- An argument as it is shown to a person, unless it holds a whole number that cannot be
written. -/
def shown? : Argument → Option Text
  | null => some "None".toList
  | skip => some "skip()".toList
  | bool value => some (if value then "True".toList else "False".toList)
  | int (some member) _ | float (some member) _ | text (some member) _ => some member.shown
  | int none value => Text.ofInt? value
  | float none value => some value.toText
  | text none value => some (Text.quoted value)
  | decimal value => some ("Decimal('".toList ++ value.toText ++ ['\'', ')'])
  | fraction value => do
    let num ← Text.ofInt? value.num
    let den ← Text.ofInt? value.den
    return "Fraction".toList ++ Text.tuple [num, den]
  | complex re im => some (complexText re im)
  | sequence kind items =>
    (shownItems? items).map fun parts =>
      if kind = "tuple" then Text.tuple parts else '[' :: (Text.commaSeparated parts ++ [']'])
  | mapping kind entries =>
    (shownEntries? entries).map fun parts =>
      let record := '\x7b' :: (Text.commaSeparated parts ++ ['\x7d'])
      if kind = "dict" then record else kind.toList ++ '(' :: (record ++ [')'])
  | classified value => value.shown?
  | bytes isBuffer content =>
    some (if isBuffer then "bytearray(".toList ++ Text.quotedBytes content ++ [')']
      else Text.quotedBytes content)
  | other thing _ => some thing.appearance

def shownItems? : List Argument → Option (List Text)
  | [] => some []
  | item :: items => do
    let part ← shown? item
    (part :: ·) <$> shownItems? items

def shownEntries? : List (Argument × Argument) → Option (List Text)
  | [] => some []
  | (key, item) :: entries => do
    let left ← shown? key
    let right ← shown? item
    let entry := left ++ [':', ' '] ++ right
    (entry :: ·) <$> shownEntries? entries

end

def shown (argument : Argument) : Text :=
  argument.shown?.getD ("<unprintable ".toList ++ argument.kind.toList ++ " object>".toList)

/-- The name that a key gives to an entry in the place of an issue. -/
def step : Argument → Text
  | text _ key => key
  | bool value => if value then ['1'] else ['0']
  | int member value => if isInt64 value then Text.ofInt value else (int member value).shown
  | key => key.shown

end Argument

end SqlTemplate
