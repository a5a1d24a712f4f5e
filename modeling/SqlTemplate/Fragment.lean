import SqlTemplate.Text

/-!
# Fragments

A query whose placeholders are filled in is a list of fragments. They remember what came from the
template and what from an argument, so that a brace in an argument is never taken for the end of a
block. A skipped placeholder leaves the skip marker.

The text of such a query can be split into fragments again. Every brace and every skip marker then
counts, wherever it came from.
-/

namespace SqlTemplate

/-- What a fragment is. Kinds that the library does not know count as plain text. -/
inductive FragmentKind
  | text
  | literal
  | skip
  | opening
  | closing
  | other (name : Text)
  deriving DecidableEq, Repr

namespace FragmentKind

def name : FragmentKind → Text
  | text => "text".toList
  | literal => "literal".toList
  | skip => "skip".toList
  | opening => "open".toList
  | closing => "close".toList
  | other name => name

/-- The kind that a word stands for. Unknown words are kinds of their own. -/
def ofName (name : Text) : FragmentKind :=
  ([text, literal, skip, opening, closing].find? (·.name == name)).getD (.other name)

/-- Whether fragments of the kind are plain text to the resolution of blocks. -/
def isPlain : FragmentKind → Bool
  | text | literal | other _ => true
  | skip | opening | closing => false

end FragmentKind

/-- What a skipped placeholder leaves in its place. -/
def skipMarker : Text := ['_', '_', 'S', 'K', 'I', 'P', '_', '_']

/-- A piece of a query, with the offset of what it came from. -/
structure Fragment where
  kind : FragmentKind
  text : Text
  position : Int
  deriving DecidableEq, Repr

namespace Fragment

def opening (position : Int) : Fragment := ⟨.opening, ['{'], position⟩

def closing (position : Int) : Fragment := ⟨.closing, ['}'], position⟩

def skip (position : Int) : Fragment := ⟨.skip, skipMarker, position⟩

/-- Puts a code point of plain text, which stands at `position`, before the fragments of the
rest. -/
def consText (c : Char) (position : Int) : List Fragment → List Fragment
  | ⟨.text, text, _⟩ :: fragments => ⟨.text, c :: text, position⟩ :: fragments
  | fragments => ⟨.text, [c], position⟩ :: fragments

@[simp]
theorem flatMap_text_consText (c : Char) (position : Int) (fragments : List Fragment) :
    (consText c position fragments).flatMap text = c :: fragments.flatMap text := by
  unfold consText
  split <;> simp

/-- The fragments of a text that starts at the offset `n`. -/
def splitFrom (n : Nat) (s : Text) : List Fragment :=
  match s with
  | [] => []
  | c :: rest =>
    if c = '{' then opening n :: splitFrom (n + 1) rest
    else if c = '}' then closing n :: splitFrom (n + 1) rest
    else if skipMarker.isPrefixOf (c :: rest) then
      skip n :: splitFrom (n + skipMarker.length) (rest.drop (skipMarker.length - 1))
    else consText c n (splitFrom (n + 1) rest)
termination_by s.length

/-- Splits a text at its braces and skip markers. Where markers overlap the leftmost counts. -/
def ofText (s : Text) : List Fragment :=
  splitFrom 0 s

end Fragment

end SqlTemplate
