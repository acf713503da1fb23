import XmlPreamble.Proofs.TextRoundTrip

/-!
# Reading is the inverse of writing

That a text is read back from its bytes leaves open what else a reader takes.  It takes nothing
else: whatever is read without a fault are the bytes of the text that was read.  No overlong form,
no encoded surrogate, no number above U+10FFFF, no cut character and no half of a pair is among
them, since no text has such bytes.

The reader of UTF-8 knows a character by its lead byte and by the limits of the next one.  Here the
bytes that complete a begun character are told apart from what follows them, and shown to be those
that the shortest form of the character has.

Main statements:

- `Utf8.exists_completes_of_decodeFrom`: behind a lead byte the reader takes a completion of it;
- `Utf8.encodeChar_of_completes`: a lead byte and its completion are the bytes of a character;
- `Utf8.encode_of_decode` and `Utf16.encode_of_decode`: what is read are the bytes of the text;
- `Encoding.decode_eq_iff`: a text is read without a fault from its own bytes and from no others;
- `Encoding.decodeInto_inverts_encode`: the same for a buffer into which a line is read.
-/

namespace XmlPreamble
namespace Text

/-- The character with a number that is no surrogate and not above U+10FFFF. -/
theorem toNat_ofNat_of_valid
    {n : Nat}
    (h : n < 0xD800 ∨ 0xDFFF < n ∧ n < 0x110000) :
    (Char.ofNat n).toNat = n := by
  rw [Char.ofNat, dif_pos h]
  rfl

namespace Utf8

section Completions

/-- The bytes that complete a begun character, and the number that all of it spells. -/
inductive Begun.Completes : Begun → Bytes → Nat → Prop
  | last
      {begun : Begun}
      {byte : UInt8}
      (hbyte : begun.low ≤ byte ∧ byte ≤ begun.high)
      (howed : begun.owed = 0) :
      Completes begun [byte] (begun.extend byte)
  | middle
      {begun : Begun}
      {byte : UInt8}
      {owed value : Nat}
      {others : Bytes}
      (hbyte : begun.low ≤ byte ∧ byte ≤ begun.high)
      (howed : begun.owed = owed + 1)
      (hothers : Completes ⟨begun.seen + 1, owed, 0x80, 0xBF, begun.extend byte⟩ others value) :
      Completes begun (byte :: others) value

/-- Behind the bytes of a begun character the reader takes a completion of it, and goes on. -/
theorem exists_completes_of_decodeFrom
    {index : Nat}
    {done text : List Char}
    {begun : Begun}
    {bytes : Bytes}
    (h : decodeFrom index done (some begun) bytes = .ok text) :
    ∃ completion rest value next, bytes = completion ++ rest ∧
      begun.Completes completion value ∧
      decodeFrom next (Char.ofNat value :: done) none rest = .ok text := by
  induction bytes generalizing begun with
  | nil =>
      cases h
  | cons byte bytes ih =>
      rw [decodeFrom] at h
      split at h
      · rename_i hbyte
        cases howed : begun.owed with
        | zero =>
            simp only [howed] at h
            exact ⟨[byte], bytes, _, _, rfl, .last hbyte howed, h⟩
        | succ owed =>
            simp only [howed] at h
            obtain ⟨completion, rest, value, next, rfl, hcompletes, hrest⟩ := ih h
            exact ⟨byte :: completion, rest, value, next, rfl, .middle hbyte howed hcompletes, hrest⟩
      · cases h

variable {seen : Nat}
variable {low high : UInt8}
variable {spelled value : Nat}
variable {completion : Bytes}

/-- One byte completes a character to which only the next byte is lacking. -/
theorem exists_of_completes_last
    (h : Begun.Completes ⟨seen, 0, low, high, spelled⟩ completion value) :
    ∃ byte, (low ≤ byte ∧ byte ≤ high) ∧ completion = [byte] ∧
      value = spelled * 64 + (byte.toNat - 0x80) := by
  cases h with
  | last hbyte _ => exact ⟨_, hbyte, rfl, rfl⟩
  | middle _ howed _ => cases howed

/-- Behind the next byte of a character to which more are lacking, the limits are the wide ones. -/
theorem exists_of_completes_middle
    {owed : Nat}
    (h : Begun.Completes ⟨seen, owed + 1, low, high, spelled⟩ completion value) :
    ∃ byte others, (low ≤ byte ∧ byte ≤ high) ∧ completion = byte :: others ∧
      Begun.Completes ⟨seen + 1, owed, 0x80, 0xBF, spelled * 64 + (byte.toNat - 0x80)⟩
        others value := by
  cases h with
  | last _ howed => cases howed
  | middle hbyte howed hothers =>
      cases howed
      exact ⟨_, _, hbyte, rfl, hothers⟩

end Completions

section OneCharacter

theorem ofNat_eq_of_mod
    {n : Nat}
    (byte : UInt8)
    (h : n % 0x100 = byte.toNat) :
    UInt8.ofNat n = byte :=
  UInt8.toNat_inj.1 (UInt8.toNat_ofNat'.trans h)

theorem payloadByte_eq_of_mod
    {n : Nat}
    (byte : UInt8)
    (h : n % 0x40 + 0x80 = byte.toNat) :
    payloadByte n = byte :=
  UInt8.toNat_inj.1 ((toNat_payloadByte n).trans h)

theorem toNat_within
    {byte : UInt8}
    (h : (0x80 : UInt8) ≤ byte ∧ byte ≤ 0xBF) :
    0x80 ≤ byte.toNat ∧ byte.toNat < 0xC0 := by
  simp only [UInt8.le_iff_toNat_le, UInt8.reduceToNat] at h
  omega

variable {lead : UInt8}
variable {completion : Bytes}
variable {value : Nat}

theorem encodeChar_of_completes_two
    (hlow : 0xC2 ≤ lead.toNat)
    (hhigh : lead.toNat < 0xE0)
    (h : Begun.Completes ⟨1, 0, 0x80, 0xBF, lead.toNat - 0xC0⟩ completion value) :
    encodeChar (Char.ofNat value) = lead :: completion := by
  obtain ⟨last, hlast, rfl, hvalue⟩ := exists_of_completes_last h
  have hlast' := toNat_within hlast
  have hchar : (Char.ofNat value).toNat = value := toNat_ofNat_of_valid (by omega)
  rw [encodeChar_of_two (by omega) (by omega), hchar, ofNat_eq_of_mod lead (by omega),
    payloadByte_eq_of_mod last (by omega)]

theorem encodeChar_of_completes_three
    {low high : UInt8}
    (hlead : 0xE0 ≤ lead.toNat)
    (hlead' : lead.toNat < 0xF0)
    (hlimits : ∀ next : UInt8, low ≤ next ∧ next ≤ high →
      0x80 ≤ next.toNat ∧ next.toNat < 0xC0 ∧
        0x20 ≤ (lead.toNat - 0xE0) * 64 + (next.toNat - 0x80) ∧
        ((lead.toNat - 0xE0) * 64 + (next.toNat - 0x80) < 0x360 ∨
          0x380 ≤ (lead.toNat - 0xE0) * 64 + (next.toNat - 0x80)))
    (h : Begun.Completes ⟨1, 1, low, high, lead.toNat - 0xE0⟩ completion value) :
    encodeChar (Char.ofNat value) = lead :: completion := by
  obtain ⟨second, others, hsecond, rfl, hothers⟩ := exists_of_completes_middle h
  obtain ⟨last, hlast, rfl, hvalue⟩ := exists_of_completes_last hothers
  have hsecond' := hlimits second hsecond
  have hlast' := toNat_within hlast
  have hchar : (Char.ofNat value).toNat = value := toNat_ofNat_of_valid (by omega)
  rw [encodeChar_of_three (by omega) (by omega), hchar, ofNat_eq_of_mod lead (by omega),
    payloadByte_eq_of_mod second (by omega),
    payloadByte_eq_of_mod last (by omega)]

theorem encodeChar_of_completes_four
    {low high : UInt8}
    (hlead : 0xF0 ≤ lead.toNat)
    (hlead' : lead.toNat < 0xF5)
    (hlimits : ∀ next : UInt8, low ≤ next ∧ next ≤ high →
      0x80 ≤ next.toNat ∧ next.toNat < 0xC0 ∧
        0x10 ≤ (lead.toNat - 0xF0) * 64 + (next.toNat - 0x80) ∧
        (lead.toNat - 0xF0) * 64 + (next.toNat - 0x80) < 0x110)
    (h : Begun.Completes ⟨1, 2, low, high, lead.toNat - 0xF0⟩ completion value) :
    encodeChar (Char.ofNat value) = lead :: completion := by
  obtain ⟨second, others, hsecond, rfl, hothers⟩ := exists_of_completes_middle h
  obtain ⟨third, rest, hthird, rfl, hrest⟩ := exists_of_completes_middle hothers
  obtain ⟨last, hlast, rfl, hvalue⟩ := exists_of_completes_last hrest
  have hsecond' := hlimits second hsecond
  have hthird' := toNat_within hthird
  have hlast' := toNat_within hlast
  have hchar : (Char.ofNat value).toNat = value := toNat_ofNat_of_valid (by omega)
  rw [encodeChar_of_four (by omega), hchar, ofNat_eq_of_mod lead (by omega),
    payloadByte_eq_of_mod second (by omega),
    payloadByte_eq_of_mod third (by omega),
    payloadByte_eq_of_mod last (by omega)]

/-- A lead byte and a completion of it are the bytes of a character, in the shortest form. -/
theorem encodeChar_of_completes
    {begun : Begun}
    (hlead : begin? lead = some begun)
    (h : begun.Completes completion value) :
    encodeChar (Char.ofNat value) = lead :: completion := by
  obtain ⟨hlow, hhigh⟩ := bounds_of_begin? hlead
  by_cases htwo : lead.toNat < 0xE0
  · rw [begin?_of_two hlow htwo] at hlead
    cases hlead
    exact encodeChar_of_completes_two hlow htwo h
  · rw [Nat.not_lt] at htwo
    by_cases hthree : lead.toNat < 0xF0
    · obtain ⟨low, high, hbegin, hlimits⟩ := begin?_of_three lead htwo hthree
      rw [hbegin] at hlead
      cases hlead
      exact encodeChar_of_completes_three htwo hthree (fun next => (hlimits next).1) h
    · rw [Nat.not_lt] at hthree
      obtain ⟨low, high, hbegin, hlimits⟩ := begin?_of_four lead hthree hhigh
      rw [hbegin] at hlead
      cases hlead
      exact encodeChar_of_completes_four hthree hhigh (fun next => (hlimits next).1) h

theorem encodeChar_of_ascii
    {byte : UInt8}
    (h : byte < 0x80) :
    encodeChar (Char.ofNat byte.toNat) = [byte] := by
  have hnat : byte.toNat < 0x80 := UInt8.lt_iff_toNat_lt.1 h
  have hchar : (Char.ofNat byte.toNat).toNat = byte.toNat := toNat_ofNat_of_valid (by omega)
  rw [encodeChar_of_lt (by omega), hchar, ofNat_eq_of_mod byte (by omega)]

end OneCharacter

section WholeText

/-- What is read without a fault are the bytes of the characters that were added to the text. -/
theorem exists_encode_of_decodeFrom
    {index : Nat}
    {done text : List Char}
    {bytes : Bytes}
    (h : decodeFrom index done none bytes = .ok text) :
    ∃ added, text = done.reverse ++ added ∧ encode added = bytes := by
  match bytes with
  | [] =>
      cases h
      exact ⟨[], (List.append_nil _).symm, rfl⟩
  | byte :: bytes =>
      by_cases hascii : byte < 0x80
      · rw [decodeFrom_cons_ascii index done byte bytes hascii] at h
        obtain ⟨added, rfl, hadded⟩ := exists_encode_of_decodeFrom h
        refine ⟨Char.ofNat byte.toNat :: added, by simp, ?_⟩
        rw [encode_cons, encodeChar_of_ascii hascii, hadded, List.singleton_append]
      · rw [decodeFrom, if_neg hascii] at h
        split at h
        · rename_i begun hlead
          obtain ⟨completion, rest, value, next, hbytes, hcompletes, hrest⟩ :=
            exists_completes_of_decodeFrom h
          have hshorter : rest.length < (byte :: bytes).length := by
            rw [hbytes, List.length_cons, List.length_append]
            omega
          obtain ⟨added, rfl, hadded⟩ := exists_encode_of_decodeFrom hrest
          refine ⟨Char.ofNat value :: added, by simp, ?_⟩
          rw [encode_cons, encodeChar_of_completes hlead hcompletes, hadded, hbytes,
            List.cons_append]
        · cases h
termination_by bytes.length

/-- What is read without a fault are the bytes of the text. -/
theorem encode_of_decode
    {bytes : Bytes}
    {text : List Char}
    (h : decode bytes = .ok text) :
    encode text = bytes := by
  obtain ⟨added, rfl, hadded⟩ := exists_encode_of_decodeFrom h
  exact hadded

end WholeText

end Utf8

namespace Utf16

section OneCharacter

variable {unit high low : UInt16}

/-- A unit that is no surrogate spells a character alone. -/
theorem unitsOfChar_ofNat
    (hhigh : isHighSurrogate unit = false)
    (hlow : isLowSurrogate unit = false) :
    unitsOfChar (Char.ofNat unit.toNat) = [unit] := by
  have hunit := unit.toNat_lt
  have hhigh' := mt isHighSurrogate_iff.2 (Bool.eq_false_iff.1 hhigh)
  have hlow' := mt isLowSurrogate_iff.2 (Bool.eq_false_iff.1 hlow)
  have hchar : (Char.ofNat unit.toNat).toNat = unit.toNat := toNat_ofNat_of_valid (by omega)
  rw [unitsOfChar, hchar, if_pos (by omega), UInt16.ofNat_toNat]

/-- A pair of surrogates spells a character with these two units. -/
theorem unitsOfChar_charOfPair
    (hhigh : isHighSurrogate high = true)
    (hlow : isLowSurrogate low = true) :
    unitsOfChar (charOfPair high low) = [high, low] := by
  rw [isHighSurrogate_iff] at hhigh
  rw [isLowSurrogate_iff] at hlow
  have hchar : (charOfPair high low).toNat =
      0x10000 + (high.toNat - 0xD800) * 0x400 + (low.toNat - 0xDC00) :=
    toNat_ofNat_of_valid (by omega)
  have hfirst : 0xD800 + ((charOfPair high low).toNat - 0x10000) / 0x400 = high.toNat := by omega
  have hsecond : 0xDC00 + ((charOfPair high low).toNat - 0x10000) % 0x400 = low.toNat := by omega
  rw [unitsOfChar, if_neg (by omega), hfirst, hsecond, UInt16.ofNat_toNat, UInt16.ofNat_toNat]

end OneCharacter

section WholeText

variable {order : ByteOrder}

/-- What is read without a fault are the units of the characters that were added to the text, the
one included of which the first half was waiting. -/
theorem exists_encode_of_decodeFrom
    {done text : List Char}
    {waiting : Option UInt16}
    {bytes : Bytes}
    (hwhole : bytes.length % 2 = 0)
    (hwaiting : ∀ high, waiting = some high → isHighSurrogate high = true)
    (h : decodeFrom order done waiting bytes = ⟨text, none⟩) :
    ∃ added, text = done.reverse ++ added ∧
      encode order added = (waiting.map order.bytes).getD [] ++ bytes := by
  fun_induction decodeFrom order done waiting bytes with
  | case1 done first second rest unit hhigh ih =>
      have hunit : order.bytes unit = [first, second] := bytes_unit order first second
      have hfirst : ∀ high, some unit = some high → isHighSurrogate high = true := by
        rintro high ⟨⟩
        exact hhigh
      obtain ⟨added, htext, hadded⟩ := ih ((Nat.add_mod_right _ 2).symm.trans hwhole) hfirst h
      refine ⟨added, htext, ?_⟩
      rw [hadded, Option.map_some, Option.getD_some, hunit]
      rfl
  | case2 done first second rest unit hhigh hlow =>
      cases h
  | case3 done first second rest unit hhigh hlow ih =>
      have hunit : order.bytes unit = [first, second] := bytes_unit order first second
      obtain ⟨added, rfl, hadded⟩ := ih ((Nat.add_mod_right _ 2).symm.trans hwhole) hwaiting h
      refine ⟨Char.ofNat unit.toNat :: added, by simp, ?_⟩
      rw [encode_cons, unitsOfChar_ofNat (Bool.eq_false_iff.2 hhigh) (Bool.eq_false_iff.2 hlow),
        List.flatMap_singleton, hunit, hadded]
      rfl
  | case4 done high first second rest unit hlow ih =>
      have hunit : order.bytes unit = [first, second] := bytes_unit order first second
      have hnone : ∀ high, none = some high → isHighSurrogate high = true := nofun
      obtain ⟨added, rfl, hadded⟩ := ih ((Nat.add_mod_right _ 2).symm.trans hwhole) hnone h
      refine ⟨charOfPair high unit :: added, by simp, ?_⟩
      rw [encode_cons, unitsOfChar_charOfPair (hwaiting high rfl) hlow, List.flatMap_cons,
        List.flatMap_singleton, hunit, hadded]
      simp
  | case5 done high first second rest unit hlow =>
      cases h
  | case6 rest done waiting hnone hsome =>
      cases h
      -- Fewer than two bytes are left, and their number is even.
      have hrest : rest = [] := by
        rcases rest with _ | ⟨first, _ | ⟨second, others⟩⟩
        · rfl
        · cases hwhole
        · exact (hnone first second others rfl rfl).elim
      refine ⟨[], (List.append_nil _).symm, ?_⟩
      rw [hrest]
      rfl

/-- What is read without a fault are the bytes of the text. -/
theorem encode_of_decode
    {bytes : Bytes}
    {text : List Char}
    (hwhole : bytes.length % 2 = 0)
    (h : decode order bytes = ⟨text, none⟩) :
    encode order text = bytes := by
  have hnone : ∀ high, none = some high → isHighSurrogate high = true := nofun
  obtain ⟨added, rfl, hadded⟩ := exists_encode_of_decodeFrom hwhole hnone h
  exact hadded

end WholeText

end Utf16

end Text

namespace Encoding

section Exactness

variable {encoding : Encoding}
variable {bytes : Bytes}
variable {text : List Char}

/-- What is read without a fault are the bytes of the text, whatever the encoding. -/
theorem encode_of_decode
    (h : encoding.decode bytes = ⟨text, none⟩) :
    encoding.encode text = bytes := by
  cases encoding with
  | utf8 =>
      rw [decode] at h
      split at h
      · rename_i read hread
        cases h
        exact Text.Utf8.encode_of_decode hread
      · cases h
  | utf16 order =>
      rw [decode] at h
      split at h
      · rename_i hwhole
        rcases hread : Text.Utf16.decode order bytes with ⟨read, _ | unit⟩
        · rw [hread] at h
          cases h
          exact Text.Utf16.encode_of_decode hwhole hread
        · rw [hread] at h
          cases h
      · cases h

/-- A text is read without a fault from its own bytes and from no others. -/
theorem decode_eq_iff : encoding.decode bytes = ⟨text, none⟩ ↔ encoding.encode text = bytes := by
  constructor
  · exact encode_of_decode
  · rintro rfl
    exact encoding.decode_encode text

/-- Different texts have different bytes. -/
theorem encode_injective (encoding : Encoding) : Function.Injective encoding.encode := by
  intro text other hsame
  have hread := encoding.decode_encode text
  rw [hsame, decode_encode] at hread
  cases hread
  rfl

/-- **Reading is the exact inverse of writing.**  Bytes are read into a buffer without a fault just
if they are the bytes of some text in their encoding.  The buffer then holds this text alone,
whatever it held before, and there is no other text with these bytes. -/
theorem decodeInto_inverts_encode
    (encoding : Encoding)
    (line : Nat)
    (bytes : Bytes)
    (held : List Char) :
    let result : Except DecodeError Unit × List Char :=
      (encoding.decodeInto line bytes).run.run held
    (result.1 = .ok () ↔ ∃ text, encoding.encode text = bytes) ∧
      (∀ text, result = (.ok (), text) ↔ encoding.encode text = bytes) ∧
      Function.Injective encoding.encode := by
  intro result
  have hresult : result = ((encoding.decodeLine line bytes).map fun _ => (),
    (encoding.decode bytes).text) := encoding.run_decodeInto line bytes held
  have hread : ∀ text, result = (.ok (), text) ↔ encoding.encode text = bytes := by
    intro text
    rw [← decode_eq_iff, hresult, decodeLine_eq]
    rcases encoding.decode bytes with ⟨read, _ | fault⟩
    · simp [Except.map]
    · simp [Except.map]
  refine ⟨?_, hread, encoding.encode_injective⟩
  constructor
  · intro hok
    exact ⟨result.2, (hread result.2).1 (Prod.ext hok rfl)⟩
  · rintro ⟨text, htext⟩
    rw [(hread text).2 htext]

end Exactness

end Encoding
end XmlPreamble
