import SqlTemplate.Text.Printable

/-!
# Quoted names

How names and bytes are shown where a person reads them: between quotes, with escapes for what has
no visible form. Single quotes are used, unless the name holds one and no double quote. Bytes are
shown as the ASCII characters that they are the codes of, with a `b` before the quotes.
-/

namespace SqlTemplate.Text

/-- The number `n` in hexadecimal digits, at least `width` of them. -/
def hexDigits (width n : Nat) : Text :=
  let digits := Nat.toDigits 16 n
  List.replicate (width - digits.length) '0' ++ digits

/-- One code point between `quote`s, where `visible` says which ones have a visible form. -/
def quotedChar (visible : Char → Bool) (quote c : Char) : Text :=
  if c = quote || c = '\\' then ['\\', c]
  else if c = '\t' then ['\\', 't']
  else if c = '\n' then ['\\', 'n']
  else if c = '\r' then ['\\', 'r']
  else if visible c then [c]
  else if c.toNat ≤ 0xFF then ['\\', 'x'] ++ hexDigits 2 c.toNat
  else if c.toNat ≤ 0xFFFF then ['\\', 'u'] ++ hexDigits 4 c.toNat
  else ['\\', 'U'] ++ hexDigits 8 c.toNat

/-- A text between quotes, where `visible` says which code points have a visible form. -/
def quotedWith (visible : Char → Bool) (s : Text) : Text :=
  let quote := if s.contains '\'' && !s.contains '"' then '"' else '\''
  quote :: (s.flatMap (quotedChar visible quote) ++ [quote])

/-- The text between quotes, with double ones if it holds single ones only. -/
def quoted (s : Text) : Text :=
  quotedWith isPrintable s

def quotedBytes (bytes : List UInt8) : Text :=
  'b' :: quotedWith (fun c => ' ' ≤ c && c ≤ '~') (bytes.map Char.ofUInt8)

def quotedList (names : List Text) : Text :=
  '[' :: (commaSeparated (names.map quoted) ++ [']'])

end SqlTemplate.Text
