import SqlTemplate.Error

/-!
# Tokens of a template

A template is plain text with placeholders and the braces of conditional blocks between. A question
mark takes the ASCII letter or number sign that directly follows it as the specifier of its
placeholder; a letter that is none of the specifiers makes the template invalid. All other code
points are text.

A token keeps the offset at which it starts. Text tokens are as long as they can be.
-/

namespace SqlTemplate

/-- How a placeholder wants its argument written. A placeholder without one writes the argument by
its own kind. -/
inductive Specifier
  | integer
  | float
  | identifier
  | array
  deriving DecidableEq, Repr

namespace Specifier

/-- The character that stands for the specifier in a template. -/
def char : Specifier → Char
  | integer => 'd'
  | float => 'f'
  | identifier => '#'
  | array => 'a'

/-- The specifier that a character stands for, if it stands for one. -/
def ofChar? : Char → Option Specifier
  | 'd' => some integer
  | 'f' => some float
  | '#' => some identifier
  | 'a' => some array
  | _ => none

/-- The specifier that a text stands for. Only texts of one character stand for any. -/
def ofText? : Text → Option Specifier
  | [c] => ofChar? c
  | _ => none

@[simp]
theorem ofChar?_char (s : Specifier) : ofChar? s.char = some s := by
  cases s <;> rfl

end Specifier

/-- The two ends of a conditional block. -/
inductive Brace
  | opening
  | closing
  deriving DecidableEq, Repr

/-- The character that stands for the brace in a template. -/
def Brace.char : Brace → Char
  | opening => '{'
  | closing => '}'

/-- A piece of a template, with the offset at which it starts. -/
inductive Token
  | text (content : Text) (position : Nat)
  | placeholder (specifier : Option Specifier) (position : Nat)
  | brace (brace : Brace) (position : Nat)
  deriving DecidableEq, Repr

namespace Token

/-- What stands in the template for the token. -/
def lexeme : Token → Text
  | text content _ => content
  | placeholder specifier _ => '?' :: (specifier.map Specifier.char).toList
  | brace b _ => [b.char]

def position : Token → Nat
  | text _ position | placeholder _ position | brace _ position => position

/-- Whether the token takes an argument. -/
def isPlaceholder : Token → Bool
  | placeholder .. => true
  | _ => false

/-- Whether a question mark takes `c` for its specifier, valid or not. -/
def takesForSpecifier (c : Char) : Bool :=
  c.isAlpha || c == '#'

/-- Puts a code point of plain text, which stands at `position`, before the tokens of the rest. -/
def consText (c : Char) (position : Nat) : List Token → List Token
  | text content _ :: tokens => text (c :: content) position :: tokens
  | tokens => text [c] position :: tokens

@[simp]
theorem flatMap_lexeme_consText (c : Char) (position : Nat) (tokens : List Token) :
    (consText c position tokens).flatMap lexeme = c :: tokens.flatMap lexeme := by
  unfold consText
  split <;> simp [lexeme]

@[simp]
theorem countP_isPlaceholder_consText (c : Char) (position : Nat) (tokens : List Token) :
    (consText c position tokens).countP isPlaceholder = tokens.countP isPlaceholder := by
  unfold consText
  split <;> simp [isPlaceholder]

/-- The tokens of a text that starts at the offset `n` of a template. -/
def scanFrom (n : Nat) : Text → Except QueryError (List Token)
  | [] => .ok []
  | '{' :: rest => (brace .opening n :: ·) <$> scanFrom (n + 1) rest
  | '}' :: rest => (brace .closing n :: ·) <$> scanFrom (n + 1) rest
  -- a question mark that ends the template has nothing to take for a specifier
  | ['?'] => .ok [placeholder none n]
  | '?' :: c :: rest =>
    if takesForSpecifier c then
      match Specifier.ofChar? c with
      | some specifier => (placeholder (some specifier) n :: ·) <$> scanFrom (n + 2) rest
      | none => .error (.invalidSpecifier [c] (some n))
    else (placeholder none n :: ·) <$> scanFrom (n + 1) (c :: rest)
  | c :: rest => consText c n <$> scanFrom (n + 1) rest

section Steps

variable {n : Nat} {c : Char} {rest : Text}

theorem scanFrom_text (hmark : c ≠ '?') (hopening : c ≠ '{') (hclosing : c ≠ '}') :
    scanFrom n (c :: rest) = (scanFrom (n + 1) rest).map (consText c n) := by
  -- all alternatives but the last start with one of the three marks
  rw [scanFrom.eq_def]
  split
  · contradiction
  · exact absurd (List.cons.inj ‹_›).1 hopening
  · exact absurd (List.cons.inj ‹_›).1 hclosing
  · exact absurd (List.cons.inj ‹_›).1 hmark
  · exact absurd (List.cons.inj ‹_›).1 hmark
  · obtain ⟨rfl, rfl⟩ := List.cons.inj ‹_›
    rfl

theorem scanFrom_opening :
    scanFrom n ('{' :: rest) = (scanFrom (n + 1) rest).map (brace .opening n :: ·) := by
  rw [scanFrom]
  rfl

theorem scanFrom_closing :
    scanFrom n ('}' :: rest) = (scanFrom (n + 1) rest).map (brace .closing n :: ·) := by
  rw [scanFrom]
  rfl

/-- A question mark that finds no specifier behind it is a placeholder by itself. -/
theorem scanFrom_bare (h : ∀ c ∈ rest.head?, takesForSpecifier c = false) :
    scanFrom n ('?' :: rest) = (scanFrom (n + 1) rest).map (placeholder none n :: ·) := by
  cases rest with
  | nil => rfl
  | cons c rest =>
    rw [scanFrom, h c rfl]
    rfl

theorem takesForSpecifier_char (s : Specifier) : takesForSpecifier s.char = true := by
  cases s <;> rfl

theorem scanFrom_specifier (s : Specifier) : scanFrom n ('?' :: s.char :: rest) =
    (scanFrom (n + 2) rest).map (placeholder (some s) n :: ·) := by
  rw [scanFrom, takesForSpecifier_char, Specifier.ofChar?_char]
  rfl

end Steps

/-- The tokens of a template, in order. -/
def scan (template : Text) : Except QueryError (List Token) :=
  scanFrom 0 template

def placeholderCount (tokens : List Token) : Nat :=
  tokens.countP isPlaceholder

theorem placeholderCount_cons (token : Token) (tokens : List Token) :
    placeholderCount (token :: tokens) = placeholderCount [token] + placeholderCount tokens := by
  show ([token] ++ tokens).countP isPlaceholder = _
  exact List.countP_append

theorem placeholderCount_placeholder (specifier : Option Specifier) (position : Nat)
    (tokens : List Token) :
    placeholderCount (placeholder specifier position :: tokens) = placeholderCount tokens + 1 :=
  List.countP_cons_of_pos rfl

end Token

end SqlTemplate
