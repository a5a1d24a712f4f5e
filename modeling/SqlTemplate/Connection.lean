import SqlTemplate.TextEscaper

/-!
# Connections

The only thing that is asked of a connection is a way to escape text. What a caller holds may be no
connection at all, an embedded database without an escaping routine of its own, a text escaper, or
an object that offers one or more routines.
-/

namespace SqlTemplate

/-- The part of a connection that speaks the protocol of the server. It escapes text, but as
bytes. -/
structure ProtocolConnection where
  /-- The encoding in which text is exchanged. -/
  encoding : Encoding
  /-- Escapes the bytes of a text. -/
  escape : List UInt8 → Except Fault (List UInt8)

/-- The routine that escapes text by way of its bytes. -/
def ProtocolConnection.routine (protocol : ProtocolConnection) : Routine := fun s =>
  match protocol.encoding.encode? s with
  | none => .error .encoding
  | some bytes => do
    let escaped ← protocol.escape bytes
    match protocol.encoding.decode? escaped with
    | none => .error .decoding
    | some t => return .text t

/-- The way through the bytes changes nothing of its own. If bytes are escaped as the text is that
they encode, the routine escapes this text. -/
theorem ProtocolConnection.routine_eq {protocol : ProtocolConnection} {s t : Text}
    {bytes escaped : List UInt8} (hs : protocol.encoding.encode? s = some bytes)
    (hescape : protocol.escape bytes = .ok escaped)
    (ht : protocol.encoding.encode? t = some escaped) : protocol.routine s = .ok (.text t) := by
  simp only [routine, hs, hescape, bind, Except.bind, Encoding.decode?_encode? ht]
  rfl

/-- What an object that stands for a connection offers. -/
structure ConnectionObject where
  /-- The name of the object's type. -/
  kind : String
  /-- Its routine `escape_string`, if it has one that can be called. -/
  escapeString : Option Routine
  /-- Its routine `real_escape_string`, if it has one that can be called. -/
  realEscapeString : Option Routine
  /-- Its connection at protocol level, if it has one. -/
  protocol : Option ProtocolConnection
  /-- The object itself, if it can be called. -/
  self : Option Routine
  /-- Whether the object counts as true. One that does not is taken for none at all where a text
  escaper is optional. -/
  isTrue : Bool := true

/-- What a caller holds for a connection. -/
inductive Connection
  | absent
  | embedded
  | escaper (text : TextEscaper)
  | object (object : ConnectionObject)

/-- The first routine that an object offers. Named routines come before a protocol-level
connection, and that before the object's being a routine itself. -/
def ConnectionObject.routine? (object : ConnectionObject) : Option Routine :=
  object.escapeString <|> object.realEscapeString <|>
    object.protocol.map ProtocolConnection.routine <|> object.self

/-- The text escaper for a connection. `target` decides where the connection does not. -/
def Connection.textEscaper (target : Text) : Connection → Except QueryError TextEscaper
  | .absent | .embedded => .ok (.ofTarget target)
  | .escaper text => .ok text
  | .object offered =>
    match offered.routine? with
    | some routine => .ok (.connection routine)
    | none => .error (.unsupportedConnection offered.kind)

/-- The text escaper that something is when it is handed over as one, as it stands. Whether it has a
routine of the right name is found out when it is asked to escape, and its answer is not decoded. -/
def Connection.asEscaper : Connection → Option TextEscaper
  | .absent => none
  | .embedded => some (.custom "Connection" fun _ => .error (.noRoutine "Connection"))
  | .escaper text => some text
  | .object offered =>
    if offered.isTrue then
      some <| .custom offered.kind fun s =>
        match offered.escapeString with
        | some routine => Reply.shown <$> routine s
        | none => .error (.noRoutine offered.kind)
    else none

end SqlTemplate
