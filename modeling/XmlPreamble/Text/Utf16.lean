import XmlPreamble.Text.Search

/-!
# UTF-16

Texts as units of sixteen bits, in either byte order.  A character above U+FFFF is a pair of
surrogates, the high one first.  The reader goes through the units in turn and remembers a high
surrogate that waits for its partner; it stops at the first surrogate without one and keeps the
text before it.

Main statements:

- `bytes_unit`: the bytes of the unit that two bytes spell are those two bytes;
- `encode_append`: the bytes of two texts in a row are the bytes of both in a row.
-/

namespace XmlPreamble.Text.Utf16

/-- Which of the two bytes of a unit comes first. -/
inductive ByteOrder where
  /-- The low byte comes first. -/
  | little
  /-- The high byte comes first. -/
  | big
  deriving DecidableEq, Repr, Inhabited

/-- The unit that two bytes in a row spell. -/
def ByteOrder.unit : ByteOrder → UInt8 → UInt8 → UInt16
  | little, first, second => second.toUInt16 * 256 + first.toUInt16
  | big, first, second => first.toUInt16 * 256 + second.toUInt16

/-- The two bytes that spell a unit. -/
def ByteOrder.bytes : ByteOrder → UInt16 → Bytes
  | little, unit => [unit.toUInt8, (unit / 256).toUInt8]
  | big, unit => [(unit / 256).toUInt8, unit.toUInt8]

section Units

/-- The bytes of the unit that two bytes spell are those two bytes. -/
theorem bytes_unit
    (order : ByteOrder)
    (first second : UInt8) :
    order.bytes (order.unit first second) = [first, second] := by
  have h₁ := first.toNat_lt
  have h₂ := second.toNat_lt
  cases order <;>
    simp only [ByteOrder.bytes, ByteOrder.unit, List.cons.injEq, and_true, ← UInt8.toNat_inj,
      UInt16.toNat_toUInt8, UInt16.toNat_div, UInt16.toNat_add, UInt16.toNat_mul,
      UInt8.toNat_toUInt16, UInt16.reduceToNat] <;>
    omega

end Units

section Writing

/-- The units of one character. -/
def unitsOfChar (c : Char) : List UInt16 :=
  let n := c.toNat
  if n < 0x10000 then
    [UInt16.ofNat n]
  else
    [UInt16.ofNat (0xD800 + (n - 0x10000) / 0x400), UInt16.ofNat (0xDC00 + (n - 0x10000) % 0x400)]

/-- The units of a text. -/
def units (text : List Char) : List UInt16 :=
  text.flatMap unitsOfChar

/-- The bytes of a text in the given order. -/
def encode (order : ByteOrder) (text : List Char) : Bytes :=
  (units text).flatMap order.bytes

@[simp] theorem encode_append
    (order : ByteOrder)
    (left right : List Char) :
    encode order (left ++ right) = encode order left ++ encode order right := by
  simp [encode, units]

end Writing

section Reading

/-- Whether a unit is the first half of a pair. -/
def isHighSurrogate (unit : UInt16) : Bool :=
  0xD800 ≤ unit && unit < 0xDC00

/-- Whether a unit is the second half of a pair. -/
def isLowSurrogate (unit : UInt16) : Bool :=
  0xDC00 ≤ unit && unit < 0xE000

/-- The character that a pair of surrogates spells. -/
def charOfPair (high low : UInt16) : Char :=
  Char.ofNat (0x10000 + (high.toNat - 0xD800) * 0x400 + (low.toNat - 0xDC00))

/-- What became of a sequence of units. -/
structure Decoded where
  /-- The text before the fault, or the whole text. -/
  text : List Char
  /-- The first surrogate that belongs to no pair. -/
  unpaired : Option UInt16
  deriving DecidableEq, Repr

/-- Reads units on.  The text read so far stands in reverse order in `done`, and a high surrogate
that has just been read waits in the second argument.  A single byte at the end is passed over. -/
def decodeFrom (order : ByteOrder) (done : List Char) : Option UInt16 → Bytes → Decoded
  | none, first :: second :: rest =>
      let unit := order.unit first second
      if isHighSurrogate unit then
        decodeFrom order done (some unit) rest
      else if isLowSurrogate unit then
        ⟨done.reverse, some unit⟩
      else
        decodeFrom order (Char.ofNat unit.toNat :: done) none rest
  | some high, first :: second :: rest =>
      let unit := order.unit first second
      if isLowSurrogate unit then
        decodeFrom order (charOfPair high unit :: done) none rest
      else
        ⟨done.reverse, some high⟩
  | waiting, _ => ⟨done.reverse, waiting⟩

/-- The text that the units of the bytes spell, as far as the first unpaired surrogate. -/
def decode (order : ByteOrder) (bytes : Bytes) : Decoded :=
  decodeFrom order [] none bytes

end Reading

end XmlPreamble.Text.Utf16
