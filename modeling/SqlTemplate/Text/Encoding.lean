import SqlTemplate.Text

/-!
# Encodings

A connection may want its text as bytes, or hand its answer back as bytes. Three encodings are
known: UTF-8, which can write every text, and the two that write one byte for each code point,
Latin-1 below U+0100 and ASCII below U+0080.
-/

namespace SqlTemplate

/-- A character encoding. -/
inductive Encoding
  | utf8
  | latin1
  | ascii
  deriving DecidableEq, Repr

namespace Encoding

/-- One byte for each code point, where all of them are below `bound`. -/
def singleBytes? (bound : Nat) (s : Text) : Option (List UInt8) :=
  if s.all fun c => c.toNat < bound then some (s.map fun c => c.toNat.toUInt8) else none

/-- One code point for each byte, where all of them are below `bound`. -/
def ofSingleBytes? (bound : Nat) (bytes : List UInt8) : Option Text :=
  if bytes.all fun b => b.toNat < bound then some (bytes.map fun b => Char.ofNat b.toNat) else none

/-- The text in bytes, if the encoding can write it. -/
def encode? : Encoding → Text → Option (List UInt8)
  | utf8, s => some (s.flatMap String.utf8EncodeChar)
  | latin1, s => singleBytes? 0x100 s
  | ascii, s => singleBytes? 0x80 s

/-- Reads bytes as UTF-8, refusing every sequence that no text is written as. -/
def decodeUtf8? (bytes : List UInt8) : Option Text :=
  (String.fromUTF8? ⟨bytes.toArray⟩).map String.toList

/-- The text that the bytes write, if they write one. -/
def decode? : Encoding → List UInt8 → Option Text
  | utf8, bytes => decodeUtf8? bytes
  | latin1, bytes => ofSingleBytes? 0x100 bytes
  | ascii, bytes => ofSingleBytes? 0x80 bytes

/-- Every text can be read back from its bytes in UTF-8. -/
theorem decodeUtf8?_flatMap (s : Text) :
    decodeUtf8? (s.flatMap String.utf8EncodeChar) = some s := by
  have hbytes : (⟨(s.flatMap String.utf8EncodeChar).toArray⟩ : ByteArray) = s.utf8Encode :=
    ByteArray.ext List.data_toByteArray.symm
  rw [decodeUtf8?, hbytes, String.fromUTF8?, dif_pos ByteArray.isValidUTF8_utf8Encode]
  exact congrArg some String.toList_ofList

theorem ofSingleBytes?_of_singleBytes? {bound : Nat} (hbound : bound ≤ 0x100) {s : Text}
    {bytes : List UInt8} (h : singleBytes? bound s = some bytes) :
    ofSingleBytes? bound bytes = some s := by
  unfold singleBytes? at h
  split at h
  next hall =>
    cases h
    rw [List.all_eq_true] at hall
    have hbyte {c : Char} (hc : c ∈ s) : c.toNat.toUInt8.toNat = c.toNat := by
      have hlt : c.toNat < bound := of_decide_eq_true (hall c hc)
      exact Nat.mod_eq_of_lt (by omega)
    rw [ofSingleBytes?, if_pos, List.map_map]
    · rw [Option.some_inj]
      refine (List.map_congr_left fun c hc => ?_).trans (List.map_id s)
      rw [Function.comp_apply, hbyte hc, Char.ofNat_toNat, id]
    · rw [List.all_map, List.all_eq_true]
      intro c hc
      rw [Function.comp_apply, hbyte hc]
      exact hall c hc
  next => cases h

/-- What is written in an encoding is read back from it. -/
theorem decode?_encode? {e : Encoding} {s : Text} {bytes : List UInt8}
    (h : e.encode? s = some bytes) : e.decode? bytes = some s := by
  cases e with
  | utf8 =>
    cases h
    exact decodeUtf8?_flatMap s
  | latin1 => exact ofSingleBytes?_of_singleBytes? (by decide) h
  | ascii => exact ofSingleBytes?_of_singleBytes? (by decide) h

end Encoding

end SqlTemplate
