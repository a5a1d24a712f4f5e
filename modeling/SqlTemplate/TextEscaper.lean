import SqlTemplate.Text.Encoding
import SqlTemplate.Text.Quoted
import SqlTemplate.Traced

/-!
# Text escapers

A text escaper prepares text to stand between single quotes. Two rules work without a connection:
the one of the SQL standard, which writes a quote twice, and the one that puts a backslash before
everything that could end the literal or be misread. A third kind asks a connection's own routine.
-/

namespace SqlTemplate

/-- What an escaping routine answers with. -/
inductive Reply
  | text (text : Text)
  | bytes (bytes : List UInt8)

/-- The text of a reply, which has to be UTF-8 if it comes in bytes. -/
def Reply.decode : Reply → Except Fault Text
  | text t => .ok t
  | bytes b =>
    match Encoding.decodeUtf8? b with
    | some t => .ok t
    | none => .error .decoding

/-- The text that an answer is shown as where it is not decoded. -/
def Reply.shown : Reply → Text
  | text t => t
  | bytes b => Text.quotedBytes b

/-- An escaping routine that lies outside the library. -/
abbrev Routine := Text → Except Fault Reply

/-- The rule that text is escaped by. -/
inductive TextEscaper
  /-- A single quote is written twice. -/
  | standard
  /-- A backslash is put before what could end the literal. -/
  | backslash
  /-- A connection's routine is asked. -/
  | connection (routine : Routine)
  /-- An escaper of the caller's own making, which is named by its type. -/
  | custom (name : String) (escape : Text → Except Fault Text)

namespace TextEscaper

def name : TextEscaper → String
  | standard => "StandardTextEscaper"
  | backslash => "BackslashTextEscaper"
  | connection _ => "ConnectionTextEscaper"
  | custom name _ => name

/-- One code point by the backslash rule. -/
def backslashChar : Char → Text
  | '\x00' => ['\\', '0']
  | '\n' => ['\\', 'n']
  | '\r' => ['\\', 'r']
  | '\\' => ['\\', '\\']
  | '\'' => ['\\', '\'']
  | '"' => ['\\', '"']
  | '\x1a' => ['\\', 'Z']
  | c => [c]

/-- What stands between the quotes for a text. -/
def escape : TextEscaper → Text → Except Fault Text
  | standard, s => .ok (s.double '\'')
  | backslash, s => .ok (s.flatMap backslashChar)
  | connection routine, s => routine s >>= Reply.decode
  | custom _ escape, s => escape s

/-- Hands a text over to be escaped, which leaves a trace. -/
def call (escaper : TextEscaper) (s : Text) : Traced Text :=
  ⟨[s], escaper.escape s⟩

/-- The error is none that the escaper comes up with by itself, whatever text it is asked to escape.
An escaper is asked for text and has no say in what is wrong with a template, but a routine from
outside could raise whatever it likes. -/
def NeverRaises (escaper : TextEscaper) (error : QueryError) : Prop :=
  ∀ s, escaper.escape s ≠ .error (.query error)

/-- The escaper for a dialect target when there is no connection: backslashes for `mysql`, and the
standard rule for every other target. -/
def ofTarget (target : Text) : TextEscaper :=
  if target = "mysql".toList then backslash else standard

section NeverRaises

variable (error : QueryError)

theorem neverRaises_standard : standard.NeverRaises error := by
  intro s h
  cases h

theorem neverRaises_backslash : backslash.NeverRaises error := by
  intro s h
  cases h

/-- The escapers that work without a connection raise nothing at all. -/
theorem neverRaises_ofTarget (target : Text) : (ofTarget target).NeverRaises error := by
  unfold ofTarget
  split
  · exact neverRaises_backslash error
  · exact neverRaises_standard error

/-- A connection's escaper adds no error of the library to those of the routine: an answer that
cannot be decoded is a fault of another kind. -/
theorem neverRaises_connection {routine : Routine}
    (h : ∀ s, routine s ≠ .error (.query error)) : (connection routine).NeverRaises error := by
  intro s hs
  have hanswer : routine s >>= Reply.decode = .error (.query error) := hs
  cases hreply : routine s with
  | error fault =>
    rw [hreply] at hanswer
    cases hanswer
    exact h s hreply
  | ok reply =>
    rw [hreply] at hanswer
    cases reply with
    | text t => cases hanswer
    | bytes b =>
      have hdecode : Reply.decode (.bytes b) = .error (.query error) := hanswer
      rw [Reply.decode] at hdecode
      split at hdecode <;> cases hdecode

end NeverRaises

end TextEscaper

end SqlTemplate
