import XmlPreamble.Encoding.Decode

/-!
# Texts are read back from their bytes

Whatever the text, its bytes in an encoding are read without a fault, and what is read is the text.
Both readers go through the bytes of one character at a time, so that it is enough to follow them
over one character, with anything behind it.

Main statements:

- `Utf8.decodeFrom_encodeChar_append` and `Utf16.decodeFrom_bytes_append`: the readers take in
  one character;
- `Encoding.decode_encode`: a text is read back from its bytes.
-/

namespace XmlPreamble
namespace Text

/-- No character is a surrogate, and none is above U+10FFFF. -/
theorem toNat_char_valid (c : Char) :
    c.toNat < 0xD800 ∨ 0xDFFF < c.toNat ∧ c.toNat < 0x110000 :=
  c.valid

namespace Utf8

section LeadBytes

theorem begin?_of_two
    {lead : UInt8}
    (hlow : 0xC2 ≤ lead.toNat)
    (hhigh : lead.toNat < 0xE0) :
    begin? lead = some ⟨1, 0, 0x80, 0xBF, lead.toNat - 0xC0⟩ := by
  rw [begin?, if_neg, if_pos]
  · rw [UInt8.lt_iff_toNat_lt]
    exact hhigh
  · rw [UInt8.lt_iff_toNat_lt]
    exact Nat.not_lt.2 hlow

/-- The limits behind the lead of three bytes let just those second bytes pass that are part
neither of an overlong form nor of a surrogate. -/
theorem begin?_of_three
    (lead : UInt8)
    (hlow : 0xE0 ≤ lead.toNat)
    (hhigh : lead.toNat < 0xF0) :
    ∃ low high, begin? lead = some ⟨1, 1, low, high, lead.toNat - 0xE0⟩ ∧
      ∀ next : UInt8, (low ≤ next ∧ next ≤ high ↔
        0x80 ≤ next.toNat ∧ next.toNat < 0xC0 ∧
          0x20 ≤ (lead.toNat - 0xE0) * 64 + (next.toNat - 0x80) ∧
          ((lead.toNat - 0xE0) * 64 + (next.toNat - 0x80) < 0x360 ∨
            0x380 ≤ (lead.toNat - 0xE0) * 64 + (next.toNat - 0x80))) := by
  by_cases hfirst : lead = 0xE0
  · subst hfirst
    refine ⟨0xA0, 0xBF, rfl, ?_⟩
    intro next
    simp only [UInt8.reduceToNat, UInt8.le_iff_toNat_le]
    omega
  · by_cases hsurrogate : lead = 0xED
    · subst hsurrogate
      refine ⟨0x80, 0x9F, rfl, ?_⟩
      intro next
      simp only [UInt8.reduceToNat, UInt8.le_iff_toNat_le]
      omega
    · have hfirst' : lead.toNat ≠ 0xE0 := fun h => hfirst (UInt8.toNat_inj.1 h)
      have hsurrogate' : lead.toNat ≠ 0xED := fun h => hsurrogate (UInt8.toNat_inj.1 h)
      refine ⟨0x80, 0xBF, ?_, ?_⟩
      · simp only [begin?, if_neg hfirst, if_neg hsurrogate, UInt8.lt_iff_toNat_lt,
          UInt8.reduceToNat]
        rw [if_neg (by omega), if_neg (by omega), if_pos hhigh]
      · intro next
        simp only [UInt8.reduceToNat, UInt8.le_iff_toNat_le]
        omega

/-- The limits behind the lead of four bytes let just those second bytes pass that are part neither
of an overlong form nor of a number above U+10FFFF. -/
theorem begin?_of_four
    (lead : UInt8)
    (hlow : 0xF0 ≤ lead.toNat)
    (hhigh : lead.toNat < 0xF5) :
    ∃ low high, begin? lead = some ⟨1, 2, low, high, lead.toNat - 0xF0⟩ ∧
      ∀ next : UInt8, (low ≤ next ∧ next ≤ high ↔
        0x80 ≤ next.toNat ∧ next.toNat < 0xC0 ∧
          0x10 ≤ (lead.toNat - 0xF0) * 64 + (next.toNat - 0x80) ∧
          (lead.toNat - 0xF0) * 64 + (next.toNat - 0x80) < 0x110) := by
  by_cases hfirst : lead = 0xF0
  · subst hfirst
    refine ⟨0x90, 0xBF, rfl, ?_⟩
    intro next
    simp only [UInt8.reduceToNat, UInt8.le_iff_toNat_le]
    omega
  · by_cases hlast : lead = 0xF4
    · subst hlast
      refine ⟨0x80, 0x8F, rfl, ?_⟩
      intro next
      simp only [UInt8.reduceToNat, UInt8.le_iff_toNat_le]
      omega
    · have hfirst' : lead.toNat ≠ 0xF0 := fun h => hfirst (UInt8.toNat_inj.1 h)
      have hlast' : lead.toNat ≠ 0xF4 := fun h => hlast (UInt8.toNat_inj.1 h)
      refine ⟨0x80, 0xBF, ?_, ?_⟩
      · have hthree : lead ≠ 0xE0 := by
          rintro rfl
          revert hlow
          decide
        have hsurrogate : lead ≠ 0xED := by
          rintro rfl
          revert hlow
          decide
        simp only [begin?, if_neg hfirst, if_neg hthree, if_neg hsurrogate, UInt8.lt_iff_toNat_lt,
          UInt8.reduceToNat]
        rw [if_neg (by omega), if_neg (by omega), if_neg (by omega), if_pos (by omega)]
      · intro next
        simp only [UInt8.reduceToNat, UInt8.le_iff_toNat_le]
        omega

/-- A byte that begins a character of more than one byte is the lead of two, three or four. -/
theorem bounds_of_begin?
    {lead : UInt8}
    {begun : Begun}
    (h : begin? lead = some begun) :
    0xC2 ≤ lead.toNat ∧ lead.toNat < 0xF5 := by
  refine ⟨Nat.le_of_not_lt ?_, Nat.lt_of_not_le ?_⟩
  · intro hlow
    have hlt : lead < 0xC2 := by
      rw [UInt8.lt_iff_toNat_lt]
      exact hlow
    rw [begin?, if_pos hlt] at h
    cases h
  · intro hhigh
    have hne : ∀ other : UInt8, other.toNat < 0xF5 → lead ≠ other := by
      rintro other hother rfl
      omega
    have hge : ∀ other : UInt8, other.toNat < 0xF5 → ¬lead < other := by
      intro other hother
      rw [UInt8.lt_iff_toNat_lt]
      omega
    simp only [begin?, if_neg (hge 0xC2 (by decide)), if_neg (hge 0xE0 (by decide)),
      if_neg (hne 0xE0 (by decide)), if_neg (hne 0xED (by decide)), if_neg (hge 0xF0 (by decide)),
      if_neg (hne 0xF0 (by decide)), if_neg (hge 0xF4 (by decide)),
      if_neg (hne 0xF4 (by decide))] at h
    cases h

end LeadBytes

section OneByte

theorem extend_mk
    (seen owed : Nat)
    (low high : UInt8)
    (value : Nat)
    (byte : UInt8) :
    Begun.extend ⟨seen, owed, low, high, value⟩ byte = value * 64 + (byte.toNat - 0x80) := by
  rfl

variable {index : Nat}
variable {done : List Char}
variable {byte : UInt8}
variable {rest : Bytes}
variable {begun : Begun}

theorem decodeFrom_cons_lead
    (hbyte : 0x80 ≤ byte.toNat)
    (h : begin? byte = some begun) :
    decodeFrom index done none (byte :: rest) = decodeFrom index done (some begun) rest := by
  have hlead : ¬byte < 0x80 := by
    rw [UInt8.lt_iff_toNat_lt]
    exact Nat.not_lt.2 hbyte
  rw [decodeFrom, if_neg hlead, h]

theorem decodeFrom_cons_middle
    {owed : Nat}
    (hbyte : begun.low ≤ byte ∧ byte ≤ begun.high)
    (howed : begun.owed = owed + 1) :
    decodeFrom index done (some begun) (byte :: rest) =
      decodeFrom index done (some ⟨begun.seen + 1, owed, 0x80, 0xBF, begun.extend byte⟩) rest := by
  rw [decodeFrom, if_pos hbyte, howed]

theorem decodeFrom_cons_last
    (hbyte : begun.low ≤ byte ∧ byte ≤ begun.high)
    (howed : begun.owed = 0) :
    decodeFrom index done (some begun) (byte :: rest) =
      decodeFrom (index + begun.seen + 1) (Char.ofNat (begun.extend byte) :: done) none rest := by
  rw [decodeFrom, if_pos hbyte, howed]

end OneByte

section OneCharacter

/-- The byte with the given six bits of payload that stands behind a lead byte. -/
def payloadByte (n : Nat) : UInt8 :=
  UInt8.ofNat (n % 0x40 + 0x80)

theorem toNat_payloadByte (n : Nat) : (payloadByte n).toNat = n % 0x40 + 0x80 := by
  rw [payloadByte, UInt8.toNat_ofNat']
  omega

theorem payloadByte_within (n : Nat) : 0x80 ≤ payloadByte n ∧ payloadByte n ≤ 0xBF := by
  simp only [UInt8.le_iff_toNat_le, toNat_payloadByte, UInt8.reduceToNat]
  omega

variable {c : Char}

theorem encodeChar_of_two
    (hlow : 0x80 ≤ c.toNat)
    (hhigh : c.toNat < 0x800) :
    encodeChar c = [UInt8.ofNat (c.toNat / 64 % 0x20 + 0xC0), payloadByte c.toNat] := by
  simp only [encodeChar, String.utf8EncodeChar, Char.toNat_val]
  rw [if_neg (by omega), if_pos (by omega)]
  rfl

theorem encodeChar_of_three
    (hlow : 0x800 ≤ c.toNat)
    (hhigh : c.toNat < 0x10000) :
    encodeChar c = [UInt8.ofNat (c.toNat / 4096 % 0x10 + 0xE0), payloadByte (c.toNat / 64),
      payloadByte c.toNat] := by
  simp only [encodeChar, String.utf8EncodeChar, Char.toNat_val]
  rw [if_neg (by omega), if_neg (by omega), if_pos (by omega)]
  rfl

theorem encodeChar_of_four
    (hlow : 0x10000 ≤ c.toNat) :
    encodeChar c = [UInt8.ofNat (c.toNat / 262144 % 8 + 0xF0), payloadByte (c.toNat / 4096),
      payloadByte (c.toNat / 64), payloadByte c.toNat] := by
  simp only [encodeChar, String.utf8EncodeChar, Char.toNat_val]
  rw [if_neg (by omega), if_neg (by omega), if_neg (by omega)]
  rfl

theorem encodeChar_ne_nil (c : Char) : encodeChar c ≠ [] := by
  rw [← List.length_pos_iff, encodeChar, String.length_utf8EncodeChar]
  exact c.utf8Size_pos

variable {index : Nat}
variable {done : List Char}
variable {rest : Bytes}

theorem decodeFrom_of_one
    (h : c.toNat < 0x80) :
    decodeFrom index done none (encodeChar c ++ rest) =
      decodeFrom (index + 1) (c :: done) none rest := by
  have hbyte : (UInt8.ofNat c.toNat).toNat = c.toNat := by
    rw [UInt8.toNat_ofNat']
    omega
  have hlt : UInt8.ofNat c.toNat < 0x80 := by
    rw [UInt8.lt_iff_toNat_lt, hbyte]
    exact h
  rw [encodeChar_of_lt h, List.singleton_append, decodeFrom_cons_ascii index done _ rest hlt, hbyte,
    Char.ofNat_toNat]

theorem decodeFrom_of_two
    (hlow : 0x80 ≤ c.toNat)
    (hhigh : c.toNat < 0x800) :
    decodeFrom index done none (encodeChar c ++ rest) =
      decodeFrom (index + 2) (c :: done) none rest := by
  rw [encodeChar_of_two hlow hhigh]
  generalize hlead : UInt8.ofNat (c.toNat / 64 % 0x20 + 0xC0) = lead
  have hnat : lead.toNat = c.toNat / 64 + 0xC0 := by
    rw [← hlead, UInt8.toNat_ofNat']
    omega
  have hvalue : (lead.toNat - 0xC0) * 64 + ((payloadByte c.toNat).toNat - 0x80) = c.toNat := by
    rw [hnat, toNat_payloadByte]
    omega
  simp only [List.cons_append, List.nil_append]
  rw [decodeFrom_cons_lead (by omega) (begin?_of_two (by omega) (by omega)),
    decodeFrom_cons_last (payloadByte_within c.toNat) rfl]
  rw [extend_mk, hvalue, Char.ofNat_toNat]

theorem decodeFrom_of_three
    (hlow : 0x800 ≤ c.toNat)
    (hhigh : c.toNat < 0x10000) :
    decodeFrom index done none (encodeChar c ++ rest) =
      decodeFrom (index + 3) (c :: done) none rest := by
  have hvalid := toNat_char_valid c
  rw [encodeChar_of_three hlow hhigh]
  generalize hlead : UInt8.ofNat (c.toNat / 4096 % 0x10 + 0xE0) = lead
  have hnat : lead.toNat = c.toNat / 4096 + 0xE0 := by
    rw [← hlead, UInt8.toNat_ofNat']
    omega
  have hsecond := toNat_payloadByte (c.toNat / 64)
  obtain ⟨low, high, hbegin, hlimits⟩ := begin?_of_three lead (by omega) (by omega)
  have hwithin := (hlimits (payloadByte (c.toNat / 64))).2 (by omega)
  have hvalue : ((lead.toNat - 0xE0) * 64 + ((payloadByte (c.toNat / 64)).toNat - 0x80)) * 64 +
      ((payloadByte c.toNat).toNat - 0x80) = c.toNat := by
    rw [hnat, toNat_payloadByte, toNat_payloadByte]
    omega
  simp only [List.cons_append, List.nil_append]
  rw [decodeFrom_cons_lead (by omega) hbegin, decodeFrom_cons_middle hwithin rfl,
    decodeFrom_cons_last (payloadByte_within c.toNat) rfl]
  rw [extend_mk, extend_mk, hvalue, Char.ofNat_toNat]

theorem decodeFrom_of_four
    (hlow : 0x10000 ≤ c.toNat) :
    decodeFrom index done none (encodeChar c ++ rest) =
      decodeFrom (index + 4) (c :: done) none rest := by
  have hvalid := toNat_char_valid c
  rw [encodeChar_of_four hlow]
  generalize hlead : UInt8.ofNat (c.toNat / 262144 % 8 + 0xF0) = lead
  have hnat : lead.toNat = c.toNat / 262144 + 0xF0 := by
    rw [← hlead, UInt8.toNat_ofNat']
    omega
  have hsecond := toNat_payloadByte (c.toNat / 4096)
  obtain ⟨low, high, hbegin, hlimits⟩ := begin?_of_four lead (by omega) (by omega)
  have hwithin := (hlimits (payloadByte (c.toNat / 4096))).2 (by omega)
  have hvalue : (((lead.toNat - 0xF0) * 64 + ((payloadByte (c.toNat / 4096)).toNat - 0x80)) * 64 +
      ((payloadByte (c.toNat / 64)).toNat - 0x80)) * 64 +
      ((payloadByte c.toNat).toNat - 0x80) = c.toNat := by
    rw [hnat, toNat_payloadByte, toNat_payloadByte, toNat_payloadByte]
    omega
  simp only [List.cons_append, List.nil_append]
  rw [decodeFrom_cons_lead (by omega) hbegin, decodeFrom_cons_middle hwithin rfl,
    decodeFrom_cons_middle (payloadByte_within (c.toNat / 64)) rfl,
    decodeFrom_cons_last (payloadByte_within c.toNat) rfl]
  rw [extend_mk, extend_mk, extend_mk, hvalue, Char.ofNat_toNat]

/-- The reader takes in one character, and knows where the next one begins. -/
theorem decodeFrom_encodeChar_append
    (c : Char)
    (index : Nat)
    (done : List Char)
    (rest : Bytes) :
    decodeFrom index done none (encodeChar c ++ rest) =
      decodeFrom (index + (encodeChar c).length) (c :: done) none rest := by
  by_cases hone : c.toNat < 0x80
  · rw [decodeFrom_of_one hone, encodeChar_of_lt hone]
    rfl
  · by_cases htwo : c.toNat < 0x800
    · rw [decodeFrom_of_two (by omega) htwo, encodeChar_of_two (by omega) htwo]
      rfl
    · by_cases hthree : c.toNat < 0x10000
      · rw [decodeFrom_of_three (by omega) hthree, encodeChar_of_three (by omega) hthree]
        rfl
      · rw [decodeFrom_of_four (by omega), encodeChar_of_four (by omega)]
        rfl

/-- Only the characters of ASCII have a byte below 80. -/
theorem le_of_mem_encodeChar
    {byte : UInt8}
    (hc : 0x80 ≤ c.toNat)
    (hbyte : byte ∈ encodeChar c) :
    0x80 ≤ byte.toNat := by
  by_cases htwo : c.toNat < 0x800
  · rw [encodeChar_of_two hc htwo] at hbyte
    simp only [List.mem_cons, List.not_mem_nil, or_false] at hbyte
    rcases hbyte with rfl | rfl
    · rw [UInt8.toNat_ofNat']
      omega
    · exact (payloadByte_within _).1
  · by_cases hthree : c.toNat < 0x10000
    · rw [encodeChar_of_three (by omega) hthree] at hbyte
      simp only [List.mem_cons, List.not_mem_nil, or_false] at hbyte
      rcases hbyte with rfl | rfl | rfl
      · rw [UInt8.toNat_ofNat']
        omega
      · exact (payloadByte_within _).1
      · exact (payloadByte_within _).1
    · rw [encodeChar_of_four (by omega)] at hbyte
      simp only [List.mem_cons, List.not_mem_nil, or_false] at hbyte
      rcases hbyte with rfl | rfl | rfl | rfl
      · rw [UInt8.toNat_ofNat']
        omega
      · exact (payloadByte_within _).1
      · exact (payloadByte_within _).1
      · exact (payloadByte_within _).1

end OneCharacter

section WholeText

/-- The reader takes in one character of a text after the other. -/
theorem decodeFrom_encode_append
    (text : List Char)
    (index : Nat)
    (done : List Char)
    (rest : Bytes) :
    decodeFrom index done none (encode text ++ rest) =
      decodeFrom (index + (encode text).length) (text.reverse ++ done) none rest := by
  induction text generalizing index done with
  | nil =>
      rfl
  | cons c text ih =>
      rw [encode_cons, List.append_assoc, decodeFrom_encodeChar_append, ih, List.length_append,
        Nat.add_assoc]
      simp

/-- A text is read back from its bytes. -/
theorem decode_encode (text : List Char) : decode (encode text) = .ok text := by
  have hread := decodeFrom_encode_append text 0 [] []
  rw [List.append_nil, List.append_nil] at hread
  rw [decode, hread, decodeFrom, List.reverse_reverse]

end WholeText

end Utf8

namespace Utf16

section Units

/-- A unit is read back from its two bytes. -/
theorem exists_bytes_eq
    (order : ByteOrder)
    (unit : UInt16) :
    ∃ first second, order.bytes unit = [first, second] ∧ order.unit first second = unit := by
  have hunit := unit.toNat_lt
  cases order with
  | little =>
      refine ⟨_, _, rfl, ?_⟩
      simp only [ByteOrder.unit, ← UInt16.toNat_inj, UInt16.toNat_toUInt8, UInt16.toNat_div,
        UInt16.toNat_add, UInt16.toNat_mul, UInt8.toNat_toUInt16, UInt16.reduceToNat]
      omega
  | big =>
      refine ⟨_, _, rfl, ?_⟩
      simp only [ByteOrder.unit, ← UInt16.toNat_inj, UInt16.toNat_toUInt8, UInt16.toNat_div,
        UInt16.toNat_add, UInt16.toNat_mul, UInt8.toNat_toUInt16, UInt16.reduceToNat]
      omega

variable {unit : UInt16}

theorem isHighSurrogate_iff :
    isHighSurrogate unit = true ↔ 0xD800 ≤ unit.toNat ∧ unit.toNat < 0xDC00 := by
  simp [isHighSurrogate, UInt16.le_iff_toNat_le, UInt16.lt_iff_toNat_lt]

theorem isLowSurrogate_iff :
    isLowSurrogate unit = true ↔ 0xDC00 ≤ unit.toNat ∧ unit.toNat < 0xE000 := by
  simp [isLowSurrogate, UInt16.le_iff_toNat_le, UInt16.lt_iff_toNat_lt]

end Units

section OneCharacter

variable {order : ByteOrder}
variable {done : List Char}
variable {rest : Bytes}
variable {unit high : UInt16}

theorem decodeFrom_of_plain
    (hhigh : isHighSurrogate unit = false)
    (hlow : isLowSurrogate unit = false) :
    decodeFrom order done none (order.bytes unit ++ rest) =
      decodeFrom order (Char.ofNat unit.toNat :: done) none rest := by
  obtain ⟨first, second, hbytes, hunit⟩ := exists_bytes_eq order unit
  rw [hbytes]
  simp only [List.cons_append, List.nil_append, decodeFrom, hunit, hhigh, hlow]
  rfl

theorem decodeFrom_of_high
    (h : isHighSurrogate unit = true) :
    decodeFrom order done none (order.bytes unit ++ rest) =
      decodeFrom order done (some unit) rest := by
  obtain ⟨first, second, hbytes, hunit⟩ := exists_bytes_eq order unit
  rw [hbytes]
  simp only [List.cons_append, List.nil_append, decodeFrom, hunit, h, if_true]

theorem decodeFrom_of_low
    (h : isLowSurrogate unit = true) :
    decodeFrom order done (some high) (order.bytes unit ++ rest) =
      decodeFrom order (charOfPair high unit :: done) none rest := by
  obtain ⟨first, second, hbytes, hunit⟩ := exists_bytes_eq order unit
  rw [hbytes]
  simp only [List.cons_append, List.nil_append, decodeFrom, hunit, h, if_true]

/-- The reader takes in one character. -/
theorem decodeFrom_bytes_append
    (c : Char)
    (order : ByteOrder)
    (done : List Char)
    (rest : Bytes) :
    decodeFrom order done none ((unitsOfChar c).flatMap order.bytes ++ rest) =
      decodeFrom order (c :: done) none rest := by
  have hvalid := toNat_char_valid c
  by_cases hone : c.toNat < 0x10000
  · have hnat : (UInt16.ofNat c.toNat).toNat = c.toNat := by
      rw [UInt16.toNat_ofNat']
      omega
    rw [unitsOfChar, if_pos hone, List.flatMap_singleton, decodeFrom_of_plain, hnat,
      Char.ofNat_toNat]
    · rw [Bool.eq_false_iff, Ne, isHighSurrogate_iff]
      omega
    · rw [Bool.eq_false_iff, Ne, isLowSurrogate_iff]
      omega
  · have hhigh : (UInt16.ofNat (0xD800 + (c.toNat - 0x10000) / 0x400)).toNat =
        0xD800 + (c.toNat - 0x10000) / 0x400 := by
      rw [UInt16.toNat_ofNat']
      omega
    have hlow : (UInt16.ofNat (0xDC00 + (c.toNat - 0x10000) % 0x400)).toNat =
        0xDC00 + (c.toNat - 0x10000) % 0x400 := by
      rw [UInt16.toNat_ofNat']
      omega
    have hpair : 0x10000 + (0xD800 + (c.toNat - 0x10000) / 0x400 - 0xD800) * 0x400 +
        (0xDC00 + (c.toNat - 0x10000) % 0x400 - 0xDC00) = c.toNat := by
      omega
    rw [unitsOfChar, if_neg hone, List.flatMap_cons, List.flatMap_singleton, List.append_assoc,
      decodeFrom_of_high, decodeFrom_of_low, charOfPair, hhigh, hlow, hpair, Char.ofNat_toNat]
    · rw [isLowSurrogate_iff]
      omega
    · rw [isHighSurrogate_iff]
      omega

end OneCharacter

section WholeText

variable (order : ByteOrder)

theorem encode_cons
    (c : Char)
    (text : List Char) :
    encode order (c :: text) = (unitsOfChar c).flatMap order.bytes ++ encode order text := by
  simp [encode, units]

theorem length_encode_mod_two (text : List Char) : (encode order text).length % 2 = 0 := by
  rw [encode]
  induction units text with
  | nil =>
      rfl
  | cons unit units ih =>
      obtain ⟨first, second, hbytes, -⟩ := exists_bytes_eq order unit
      rw [List.flatMap_cons, hbytes, List.length_append, List.length_cons, List.length_singleton]
      omega

theorem decodeFrom_encode
    (text done : List Char) :
    decodeFrom order done none (encode order text) = ⟨done.reverse ++ text, none⟩ := by
  induction text generalizing done with
  | nil =>
      rw [List.append_nil]
      rfl
  | cons c text ih =>
      rw [encode_cons, decodeFrom_bytes_append, ih]
      simp

/-- A text is read back from its bytes. -/
theorem decode_encode (text : List Char) : decode order (encode order text) = ⟨text, none⟩ :=
  decodeFrom_encode order text []

end WholeText

end Utf16

end Text

namespace Encoding

/-- A text is read back from its bytes, whatever the encoding. -/
theorem decode_encode
    (encoding : Encoding)
    (text : List Char) :
    encoding.decode (encoding.encode text) = ⟨text, none⟩ := by
  cases encoding with
  | utf8 =>
      rw [encode, decode, Text.Utf8.decode_encode]
  | utf16 order =>
      rw [encode, decode, if_pos (Text.Utf16.length_encode_mod_two order text),
        Text.Utf16.decode_encode]
      rfl

end Encoding
end XmlPreamble
