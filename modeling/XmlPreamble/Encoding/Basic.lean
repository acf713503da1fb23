import XmlPreamble.Text.Utf8
import XmlPreamble.Text.Utf16

/-!
# Encodings of a document

A document is UTF-8 or UTF-16 in one of the two byte orders.  UTF-16 shows itself in the first two
bytes, by a byte order mark or by a `<` next to a null byte; everything else is read as UTF-8.

Main statement:

- `sniff_signature_append`: a document that begins with the byte order mark of an encoding is read
  in that encoding.
-/

namespace XmlPreamble

open Text (Utf8.encode Utf16.encode Utf16.ByteOrder)

/-- The encodings that a document can be in. -/
inductive Encoding where
  /-- UTF-8, and whatever does not announce itself as anything else. -/
  | utf8
  /-- UTF-16 with the given byte order. -/
  | utf16 (order : Utf16.ByteOrder)
  deriving DecidableEq, Repr, Inhabited

namespace Encoding

/-- The name of an encoding in messages and records. -/
def label : Encoding → String
  | utf8 => "Utf8"
  | utf16 .little => "Utf16Le"
  | utf16 .big => "Utf16Be"

/-- The bytes of a text in an encoding, without a byte order mark. -/
def encode : Encoding → List Char → Bytes
  | utf8, text => Utf8.encode text
  | utf16 order, text => Utf16.encode order text

section Units

/-- The number of bytes in a code unit. -/
def unitLength : Encoding → Nat
  | utf8 => 1
  | utf16 _ => 2

theorem unitLength_pos (encoding : Encoding) : 0 < encoding.unitLength := by
  cases encoding <;> simp [unitLength]

/-- The number of bytes in the whole code units among `count` bytes. -/
def wholeUnits (encoding : Encoding) (count : Nat) : Nat :=
  count - count % encoding.unitLength

end Units

section Signatures

/-- The byte order mark of an encoding. -/
def signature : Encoding → Bytes
  | utf8 => [0xEF, 0xBB, 0xBF]
  | utf16 .little => [0xFF, 0xFE]
  | utf16 .big => [0xFE, 0xFF]

/-- The number of bytes to look at before the encoding and its byte order mark are settled. -/
def sniffLength : Nat := 3

/-- The length of the byte order mark that a document begins with, if it is that of `encoding`. -/
def signatureLength (encoding : Encoding) (bytes : Bytes) : Nat :=
  if encoding.signature.isPrefixOf bytes then encoding.signature.length else 0

/-- Whether a document begins with the byte order mark of an encoding or with a `<` in it. -/
def announcedBy (encoding : Encoding) (bytes : Bytes) : Bool :=
  encoding.signature.isPrefixOf bytes || (encoding.encode ['<']).isPrefixOf bytes

/-- The encoding that the first bytes of a document announce. -/
def sniff (bytes : Bytes) : Encoding :=
  if (utf16 .little).announcedBy bytes then utf16 .little
  else if (utf16 .big).announcedBy bytes then utf16 .big
  else utf8

/-- A document that begins with the byte order mark of an encoding is read in that encoding. -/
theorem sniff_signature_append
    (encoding : Encoding)
    (bytes : Bytes) :
    sniff (encoding.signature ++ bytes) = encoding := by
  rcases encoding with _ | _ | _ <;>
    simp [sniff, announcedBy, signature, encode, Utf16.encode, Text.Utf16.units,
      Text.Utf16.unitsOfChar, Utf16.ByteOrder.bytes]

/-- A byte order mark is part of the document that begins with it. -/
theorem signatureLength_le_length
    (encoding : Encoding)
    (bytes : Bytes) :
    encoding.signatureLength bytes ≤ bytes.length := by
  rw [signatureLength]
  split
  · rename_i h
    exact (List.isPrefixOf_iff_prefix.1 h).length_le
  · exact Nat.zero_le _

end Signatures

end Encoding

end XmlPreamble
