import XmlPreamble.Text.Search

/-!
# UTF-8

Texts as bytes, one to four per character, and the strict way back.  The reader goes through the
bytes one at a time.  Between two characters it expects a lead byte; behind a lead byte it knows
how many bytes are still owed and which values the next one may have.  The narrow limits behind
`E0`, `ED`, `F0` and `F4` rule out overlong forms, surrogates and values above U+10FFFF at the
second byte, so that the reader stops at the first byte that no text can contain at that place.

Main statements:

- `decodeFrom_cons_ascii`: a byte below 80 is read as it stands;
- `decode_encode_of_lt`: a text in ASCII is read back from its bytes;
- `encode_append`: the bytes of two texts in a row are the bytes of both in a row.
-/

namespace XmlPreamble.Text.Utf8

/-- The first place at which a sequence of bytes stops being UTF-8. -/
inductive Fault where
  /-- The bytes end within the character that begins at `index`. -/
  | incomplete (index : Nat)
  /-- The `count` bytes from `index` on begin no character together with what follows them. -/
  | invalid (count index : Nat)
  deriving DecidableEq, Repr

section Writing

/-- The bytes of one character, the shortest form. -/
def encodeChar (c : Char) : Bytes :=
  String.utf8EncodeChar c

/-- The bytes of a text. -/
def encode (text : List Char) : Bytes :=
  text.flatMap encodeChar

@[simp] theorem encode_nil : encode [] = [] := by
  rfl

@[simp] theorem encode_cons
    (c : Char)
    (text : List Char) :
    encode (c :: text) = encodeChar c ++ encode text := by
  simp [encode]

@[simp] theorem encode_append
    (left right : List Char) :
    encode (left ++ right) = encode left ++ encode right := by
  simp [encode]

end Writing

section Reading

/-- A character of which the lead byte, and possibly more, has been read. -/
structure Begun where
  /-- The number of bytes read. -/
  seen : Nat
  /-- The number of bytes still to come after the next one. -/
  owed : Nat
  /-- The least value of the next byte. -/
  low : UInt8
  /-- The greatest value of the next byte. -/
  high : UInt8
  /-- The number spelled by the payload of the bytes read. -/
  value : Nat
  deriving DecidableEq, Repr

/-- What a byte from 80 on begins, if it can begin a character. -/
def begin? (lead : UInt8) : Option Begun :=
  if lead < 0xC2 then none
  else if lead < 0xE0 then some ⟨1, 0, 0x80, 0xBF, lead.toNat - 0xC0⟩
  else if lead = 0xE0 then some ⟨1, 1, 0xA0, 0xBF, 0⟩
  else if lead = 0xED then some ⟨1, 1, 0x80, 0x9F, 0xD⟩
  else if lead < 0xF0 then some ⟨1, 1, 0x80, 0xBF, lead.toNat - 0xE0⟩
  else if lead = 0xF0 then some ⟨1, 2, 0x90, 0xBF, 0⟩
  else if lead < 0xF4 then some ⟨1, 2, 0x80, 0xBF, lead.toNat - 0xF0⟩
  else if lead = 0xF4 then some ⟨1, 2, 0x80, 0x8F, 4⟩
  else none

/-- The number that a begun character spells once `next` is read too. -/
def Begun.extend (begun : Begun) (next : UInt8) : Nat :=
  begun.value * 64 + (next.toNat - 0x80)

/-- Reads bytes on.  The text read so far stands in reverse order in `done`, and `index` is the
index of the byte at which the current character begins. -/
def decodeFrom (index : Nat) (done : List Char) :
    Option Begun → Bytes → Except Fault (List Char)
  | none, [] => .ok done.reverse
  | some _, [] => .error (.incomplete index)
  | none, byte :: rest =>
      if byte < 0x80 then
        decodeFrom (index + 1) (Char.ofNat byte.toNat :: done) none rest
      else
        match begin? byte with
        | some begun => decodeFrom index done (some begun) rest
        | none => .error (.invalid 1 index)
  | some begun, byte :: rest =>
      if begun.low ≤ byte ∧ byte ≤ begun.high then
        match begun.owed with
        | 0 =>
            decodeFrom (index + begun.seen + 1) (Char.ofNat (begun.extend byte) :: done) none rest
        | owed + 1 =>
            decodeFrom index done (some ⟨begun.seen + 1, owed, 0x80, 0xBF, begun.extend byte⟩) rest
      else
        .error (.invalid begun.seen index)

/-- The text that the bytes spell, or the first fault in them. -/
def decode (bytes : Bytes) : Except Fault (List Char) :=
  decodeFrom 0 [] none bytes

/-- A byte below 80 is the character with that number. -/
theorem decodeFrom_cons_ascii
    (index : Nat)
    (done : List Char)
    (byte : UInt8)
    (rest : Bytes)
    (h : byte < 0x80) :
    decodeFrom index done none (byte :: rest) =
      decodeFrom (index + 1) (Char.ofNat byte.toNat :: done) none rest := by
  simp [decodeFrom, h]

theorem encodeChar_of_lt
    {c : Char}
    (h : c.toNat < 0x80) :
    encodeChar c = [UInt8.ofNat c.toNat] :=
  if_pos (Nat.le_of_lt_succ h)

theorem decodeFrom_encode_of_lt
    {text : List Char}
    (h : ∀ c ∈ text, c.toNat < 0x80)
    (index : Nat)
    (done : List Char) :
    decodeFrom index done none (encode text) = .ok (done.reverse ++ text) := by
  induction text generalizing index done with
  | nil =>
      simp [decodeFrom]
  | cons c rest ih =>
      have hc := h c List.mem_cons_self
      have hbyte : (UInt8.ofNat c.toNat).toNat = c.toNat := by
        rw [UInt8.toNat_ofNat']
        omega
      have hlt : UInt8.ofNat c.toNat < 0x80 := by
        rw [UInt8.lt_iff_toNat_lt, hbyte]
        exact hc
      rw [encode_cons, encodeChar_of_lt hc, List.singleton_append,
        decodeFrom_cons_ascii index done _ _ hlt,
        ih fun d hd => h d (List.mem_cons_of_mem _ hd), hbyte]
      simp [Char.ofNat_toNat]

/-- A text in ASCII is read back from its bytes. -/
theorem decode_encode_of_lt
    {text : List Char}
    (h : ∀ c ∈ text, c.toNat < 0x80) :
    decode (encode text) = .ok text :=
  decodeFrom_encode_of_lt h 0 []

end Reading

section Lossy

/-- Reads bytes on, with U+FFFD in place of every fault. -/
def decodeLossyFrom (done : List Char) : Option Begun → Bytes → List Char
  | none, [] => done.reverse
  | some _, [] => ('\uFFFD' :: done).reverse
  | none, byte :: rest =>
      if byte < 0x80 then
        decodeLossyFrom (Char.ofNat byte.toNat :: done) none rest
      else
        match begin? byte with
        | some begun => decodeLossyFrom done (some begun) rest
        | none => decodeLossyFrom ('\uFFFD' :: done) none rest
  | some begun, byte :: rest =>
      if begun.low ≤ byte ∧ byte ≤ begun.high then
        match begun.owed with
        | 0 => decodeLossyFrom (Char.ofNat (begun.extend byte) :: done) none rest
        | owed + 1 =>
            decodeLossyFrom done (some ⟨begun.seen + 1, owed, 0x80, 0xBF, begun.extend byte⟩) rest
      else if byte < 0x80 then
        decodeLossyFrom (Char.ofNat byte.toNat :: '\uFFFD' :: done) none rest
      else
        match begin? byte with
        | some next => decodeLossyFrom ('\uFFFD' :: done) (some next) rest
        | none => decodeLossyFrom ('\uFFFD' :: '\uFFFD' :: done) none rest

/-- The text of bytes that need not be UTF-8: each longest part that could still have become a
character, and each byte that could not begin one, shows as U+FFFD. -/
def decodeLossy (bytes : Bytes) : List Char :=
  decodeLossyFrom [] none bytes

end Lossy

end XmlPreamble.Text.Utf8
