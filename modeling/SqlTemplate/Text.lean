/-!
# Text

Templates, arguments, identifiers and finished SQL are all text. Every offset and length that the
library reports counts code points, so text is the list of its code points: an offset is then the
length of what stands before it, and a pass over a template is a recursion on the list.
-/

namespace SqlTemplate

/-- Text, as the list of its code points. -/
abbrev Text := List Char

namespace Text

/-- Writes `q` twice wherever it occurs, and every other code point once. -/
def double (q : Char) (s : Text) : Text :=
  s.flatMap fun c => if c = q then [c, c] else [c]

/-- Puts `s` between `opening` and `closing`. A `closing` inside `s` is written twice, so that a
reader who takes two for one finds where the text ends. -/
def enclose (opening closing : Char) (s : Text) : Text :=
  opening :: (s.double closing ++ [closing])

/-- The parts in order, with a comma and a blank between neighbours. -/
def commaSeparated (parts : List Text) : Text :=
  [',', ' '].intercalate parts

@[simp]
theorem double_nil (q : Char) : double q [] = [] := rfl

theorem double_cons (q c : Char) (s : Text) :
    double q (c :: s) = (if c = q then [c, c] else [c]) ++ double q s := rfl

@[simp]
theorem double_append (q : Char) (s t : Text) : double q (s ++ t) = double q s ++ double q t := by
  simp [double]

end Text

end SqlTemplate
