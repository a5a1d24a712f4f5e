import SqlTemplate.Argument
import SqlTemplate.Number.Numeral
import SqlTemplate.Template.Token
import SqlTemplate.Text.Blank

/-!
# Coercion to numbers

The numeric placeholders take any argument that can be read as a number. Null is zero. A text is
read as a numeral, white space around it left out. For a whole number, fractions are cut off; a text
that writes a whole number is read exactly, and any other numeral through the nearest float.
-/

namespace SqlTemplate

namespace Argument

/-- The whole number that a text writes, exactly if it has no fraction or power of ten and no more
digits than the limit. -/
def textToInt (s : Text) : Except QueryError Int :=
  let body := s.strip
  match (Numeral.integer? body).filter fun (_, digits) => digits ≤ digitLimit with
  | some (value, _) => .ok value
  | none =>
    -- no whole number, or one with too many digits
    match Numeral.decimal? body with
    | none => .error (.coercion [Specifier.integer.char] "str")
    | some numeral =>
      match (Binary64.ofDecimal numeral).truncate? with
      | some value => .ok value
      | none => .error (.coercion [Specifier.integer.char] "float")

def toInt (argument : Argument) : Except QueryError Int :=
  let whole : Option Int → Except QueryError Int
    | some value => .ok value
    | none => .error (.coercion [Specifier.integer.char] argument.kind)
  match argument with
  | null => .ok 0
  | bool value => .ok value.toInt
  | int _ value => .ok value
  | text _ value => textToInt value
  | float _ value => whole value.truncate?
  | decimal value => whole value.truncate?
  | fraction value => .ok (value.num.tdiv value.den)
  | _ => whole none

/-- The float nearest to a number. There is none for a whole number or fraction beyond the largest
float, and none for a signalling NaN. -/
def nearestFloat? : Argument → Option Binary64
  | bool value => Binary64.ofRat? value.toInt
  | int _ value => Binary64.ofRat? value
  | fraction value => Binary64.ofRat? value
  | float _ value => some value
  | decimal (.nan _ true) => none
  | decimal value => some (.ofDecimal value)
  | _ => none

/-- The argument as a float. A text or decimal beyond the largest float becomes an infinity, and a
whole number or fraction beyond it is an error. -/
def toFloat : Argument → Except Fault Binary64
  | null => .ok (Binary64.zero false)
  | text _ value =>
    match Numeral.decimal? value.strip with
    | some numeral => .ok (.ofDecimal numeral)
    | none => .error (.query (.coercion [Specifier.float.char] "str"))
  | decimal (.nan _ true) => .error .signalingNaN
  | argument =>
    match argument.nearestFloat? with
    | some value => .ok value
    | none => .error (.query (.coercion [Specifier.float.char] argument.kind))

end Argument

end SqlTemplate
