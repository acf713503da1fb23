import XmlPreamble.Encoding.Basic

/-!
# Decoding a line

The strict way from the bytes of one line to its text.  Nothing malformed is replaced: the first
fault is reported together with the text that was read before it.  In UTF-8 a faulty line yields
no text at all; in UTF-16 it yields the text before the first unpaired surrogate, and a line with
an odd number of bytes is refused before any unit is looked at.

Main statements:

- `decode_nil`: the empty line has the empty text in every encoding;
- `run_decodeInto`: a buffer into which a line is read holds the text of that line alone;
- `decodeLine_eq`: what is handed on of a line is its text or its first fault.
-/

namespace XmlPreamble

/-- Why a line is not text in its encoding. -/
inductive DecodeFault where
  /-- The line is not UTF-8. -/
  | utf8 (fault : Text.Utf8.Fault)
  /-- The line is to be UTF-16 and has an odd number of bytes. -/
  | oddLength
  /-- The line holds a surrogate that belongs to no pair. -/
  | unpairedSurrogate (unit : UInt16)
  deriving DecidableEq, Repr

namespace DecodeFault

/-- A number in lower-case hexadecimal digits. -/
def hexText (n : Nat) : String :=
  String.ofList (Nat.toDigits 16 n)

/-- The wording of a fault. -/
def reason : DecodeFault → String
  | utf8 (.incomplete index) =>
      "incomplete utf-8 byte sequence from index " ++ Nat.repr index
  | utf8 (.invalid count index) =>
      "invalid utf-8 sequence of " ++ Nat.repr count ++ " bytes from index " ++ Nat.repr index
  | oddLength => "odd number of bytes"
  | unpairedSurrogate unit => "unpaired surrogate found: " ++ hexText unit.toNat

end DecodeFault

/-- A line that is not text in the encoding of its document. -/
structure DecodeError where
  /-- The encoding of the document. -/
  encoding : Encoding
  /-- The number of the line, counted from one. -/
  line : Nat
  /-- The first fault in the line. -/
  fault : DecodeFault
  deriving DecidableEq, Repr

/-- The wording of a decoding error. -/
def DecodeError.message (error : DecodeError) : String :=
  "invalid " ++ error.encoding.label ++ " on line " ++ Nat.repr error.line ++ ": " ++
    error.fault.reason

/-- What became of the bytes of a line. -/
structure DecodedLine where
  /-- The text of the line, or what of it was read before the fault. -/
  text : List Char
  /-- The first fault, if there is one. -/
  fault : Option DecodeFault
  deriving DecidableEq, Repr

namespace Encoding

/-- Reads the bytes of one line. -/
def decode : Encoding → Bytes → DecodedLine
  | utf8, bytes =>
      match Text.Utf8.decode bytes with
      | .ok text => ⟨text, none⟩
      | .error fault => ⟨[], some (.utf8 fault)⟩
  | utf16 order, bytes =>
      if bytes.length % 2 = 0 then
        let decoded := Text.Utf16.decode order bytes
        ⟨decoded.text, decoded.unpaired.map .unpairedSurrogate⟩
      else
        ⟨[], some .oddLength⟩

@[simp] theorem decode_nil (encoding : Encoding) : encoding.decode [] = ⟨[], none⟩ := by
  cases encoding <;> rfl

/-- Reads the bytes of the line with the given number into a buffer of text.  What the buffer holds
is dropped first; a line that is not text leaves in it what was read in front of the fault. -/
def decodeInto (encoding : Encoding) (line : Nat) (bytes : Bytes) :
    ExceptT DecodeError (StateM (List Char)) Unit := do
  set ([] : List Char)
  let decoded := encoding.decode bytes
  modify (· ++ decoded.text)
  match decoded.fault with
  | none => return
  | some fault => throw ⟨encoding, line, fault⟩

/-- Reads the bytes of the line with the given number, to the text that a buffer then holds or to
an error. -/
def decodeLine (encoding : Encoding) (line : Nat) (bytes : Bytes) :
    Except DecodeError (List Char) :=
  match (encoding.decodeInto line bytes).run.run [] with
  | (.ok (), text) => .ok text
  | (.error error, _) => .error error

/-- A line is its text, or its first fault is the error. -/
theorem decodeLine_eq
    (encoding : Encoding)
    (line : Nat)
    (bytes : Bytes) :
    encoding.decodeLine line bytes =
      match encoding.decode bytes with
      | ⟨text, none⟩ => .ok text
      | ⟨_, some fault⟩ => .error ⟨encoding, line, fault⟩ := by
  rcases hdecoded : encoding.decode bytes with ⟨text, _ | fault⟩
  · simp only [decodeLine, decodeInto, hdecoded]
    rfl
  · simp only [decodeLine, decodeInto, hdecoded]
    rfl

/-- A buffer into which a line is read holds the text of that line, whatever it held before. -/
theorem run_decodeInto
    (encoding : Encoding)
    (line : Nat)
    (bytes : Bytes)
    (held : List Char) :
    (encoding.decodeInto line bytes).run.run held =
      ((encoding.decodeLine line bytes).map fun _ => (), (encoding.decode bytes).text) := by
  rw [decodeLine_eq]
  rcases hdecoded : encoding.decode bytes with ⟨text, _ | fault⟩
  · simp only [decodeInto, hdecoded]
    rfl
  · simp only [decodeInto, hdecoded]
    rfl

end Encoding

end XmlPreamble
