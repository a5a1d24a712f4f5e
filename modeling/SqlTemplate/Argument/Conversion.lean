import SqlTemplate.Argument.Coerce

/-!
# What things stand for

Some things can be asked for something that they are not: whether they are equal to a text, which
float they come to, which parts they have. What the kinds that the library knows answer to this is
fixed. A thing of another kind answers as it likes, so its answers are given from outside.
-/

namespace SqlTemplate

namespace Argument

/-- Whether the argument is a real number of a kind that the library knows. -/
def isReal : Argument → Bool
  | bool _ | int .. | float .. | decimal _ | fraction _ => true
  | _ => false

/-- Whether the argument counts as one thing wherever a sequence is asked for, though it has parts:
texts, bytes and mappings do. -/
def isWhole : Argument → Bool
  | text .. | bytes .. | mapping .. => true
  | _ => false

end Argument

/-- What things answer when they are asked for something that they are not. -/
structure Conversions where
  /-- The text that a thing is equal to. -/
  text? : Argument → Option Text
  /-- The float that a thing gives for itself. -/
  float? : Argument → Option Binary64
  /-- The parts that come out if a thing is gone through. -/
  parts? : Argument → Option (List Argument)

namespace Conversions

/-- The float that something does for where a number is asked for. A truth value is no number,
though it would give a float. -/
def number? (c : Conversions) : Argument → Option Binary64
  | .bool _ => none
  | argument => c.float? argument

/-- The parts of something that does for a sequence. -/
def sequence? (c : Conversions) (argument : Argument) : Option (List Argument) :=
  if argument.isWhole then none else c.parts? argument

/-- The answers of the kinds that the library knows are the right ones. Those of other things are
left open. -/
structure Standard (c : Conversions) : Prop where
  text (member : Option Member) (s : Text) : c.text? (.text member s) = some s
  real {argument : Argument} (h : argument.isReal = true) :
    c.float? argument = argument.nearestFloat?
  sequence (kind : String) (items : List Argument) : c.parts? (.sequence kind items) = some items

/-- The answers without which nothing could be read: texts are texts, floats and whole numbers give
floats, and sequences have their items for parts. Nothing else answers. -/
def plain : Conversions where
  text?
    | .text _ s => some s
    | _ => none
  float? argument :=
    match argument with
    | .int .. | .float .. => argument.nearestFloat?
    | _ => none
  parts?
    | .sequence _ items => some items
    | _ => none

/-- The answers where no thing answers on its own behalf: rationals and decimals give floats too,
and a thing of an unknown kind has the parts that it comes with and is nothing else. -/
def known : Conversions where
  text? := plain.text?
  float? := Argument.nearestFloat?
  parts? argument := argument.elements.toOption

/-- Whatever is answered by the first is answered by the second, and in the same way. -/
structure Within (c c' : Conversions) : Prop where
  text {argument : Argument} {s : Text} (h : c.text? argument = some s) :
    c'.text? argument = some s
  number {argument : Argument} {x : Binary64} (h : c.number? argument = some x) :
    c'.number? argument = some x
  sequence {argument : Argument} {parts : List Argument}
    (h : c.sequence? argument = some parts) : c'.sequence? argument = some parts

theorem Within.refl (c : Conversions) : c.Within c where
  text h := h
  number h := h
  sequence h := h

end Conversions

end SqlTemplate
