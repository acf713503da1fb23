import Mathlib
import XmlPreamble.Proofs.ExactDecoding

/-!
# The first fault of a line

Bytes that are not text are refused for the first thing in them that no text contains, and the
error says where and what that is.  Here the first fault is told from the bytes and from the writer
alone: in UTF-8 by the longest front that is text, and by how much of a character the bytes behind
it still begin; in UTF-16 by the first surrogate, from left to right, that belongs to no pair.

The reader of UTF-8 stops between two characters or within one.  What it has read of a character is
part of the bytes of some character, whatever is still owed, and a byte outside the limits takes
that away, so the place where it stops is the place that the writer knows.

Main statements:

- `Utf8.Begins.isUnfinished` and `Utf8.Begins.not_prefix`: the limits of the next byte let through
  what still begins a character, and nothing else;
- `Utf8.exists_stuck_of_decode` and `Utf16.exists_unpaired_of_decode`: the readers stop behind the
  bytes of a text, at bytes that go on with no text;
- `Encoding.decodeInto_reports_first_fault`: the error of a line and what it leaves in the buffer.
-/

namespace XmlPreamble
namespace Text
namespace Utf8

section Specification

/-- Some text has these bytes. -/
def IsText (bytes : Bytes) : Prop :=
  ∃ text, encode text = bytes

/-- The bytes are the front of the bytes of some character, but not all of them. -/
def IsUnfinished (bytes : Bytes) : Prop :=
  ∃ c, bytes <+: encodeChar c ∧ bytes ≠ encodeChar c

/-- The lengths of the fronts of the bytes that are text. -/
def textLengths (bytes : Bytes) : Set Nat :=
  {length | length ≤ bytes.length ∧ IsText (bytes.take length)}

/-- The lengths of the fronts of the bytes that are an unfinished character. -/
def unfinishedLengths (bytes : Bytes) : Set Nat :=
  {length | length ≤ bytes.length ∧ IsUnfinished (bytes.take length)}

/-- The first fault of bytes that are not UTF-8: where the longest front that is text ends, the
bytes end within a character, or they go on with no character, and then as many of them are at
fault as still begin one, at least a single one. -/
inductive FirstFault (bytes : Bytes) : Fault → Prop
  | incomplete
      {index : Nat}
      (hindex : IsGreatest (textLengths bytes) index)
      (hrest : bytes.drop index ≠ [] ∧ IsUnfinished (bytes.drop index)) :
      FirstFault bytes (.incomplete index)
  | invalid
      {index longest : Nat}
      (hindex : IsGreatest (textLengths bytes) index)
      (hrest : bytes.drop index ≠ [] ∧ ¬IsUnfinished (bytes.drop index))
      (hlongest : IsGreatest (unfinishedLengths (bytes.drop index)) longest)
      (hbounds : max 1 longest ≤ 3) :
      FirstFault bytes (.invalid (max 1 longest) index)

end Specification

section WithinCharacter

/-- The bytes read of a character, and what the reader knows behind them. -/
inductive Begins : Bytes → Begun → Prop
  | lead
      {byte : UInt8}
      {begun : Begun}
      (hlead : begin? byte = some begun) :
      Begins [byte] begun
  | next
      {seen : Bytes}
      {begun : Begun}
      {byte : UInt8}
      {owed : Nat}
      (hseen : Begins seen begun)
      (hbyte : begun.low ≤ byte ∧ byte ≤ begun.high)
      (howed : begun.owed = owed + 1) :
      Begins (seen ++ [byte]) ⟨begun.seen + 1, owed, 0x80, 0xBF, begun.extend byte⟩

variable {seen : Bytes}
variable {begun : Begun}
variable {byte : UInt8}

/-- No lead byte asks for more than three bytes behind it, and every one has a byte to go on. -/
theorem shape_of_begin?
    (h : begin? byte = some begun) :
    begun.seen = 1 ∧ begun.owed ≤ 2 ∧ begun.low ≤ begun.high := by
  rw [begin?] at h
  repeat' split at h
  all_goals cases h
  all_goals exact ⟨rfl, by dsimp only; decide, by dsimp only; decide⟩

theorem Begins.seen_eq
    (h : Begins seen begun) :
    begun.seen = seen.length := by
  induction h with
  | lead hlead => exact (shape_of_begin? hlead).1
  | next hseen hbyte howed ih => rw [List.length_append, ← ih, List.length_singleton]

theorem Begins.length_bounds
    (h : Begins seen begun) :
    1 ≤ seen.length ∧ seen.length + begun.owed ≤ 3 := by
  induction h with
  | lead hlead =>
      have hshape := shape_of_begin? hlead
      rw [List.length_singleton]
      omega
  | next hseen hbyte howed ih =>
      rw [List.length_append, List.length_singleton]
      dsimp only
      omega

theorem Begins.low_le_high
    (h : Begins seen begun) :
    begun.low ≤ begun.high := by
  cases h with
  | lead hlead => exact (shape_of_begin? hlead).2.2
  | next hseen hbyte howed => exact (by decide : (0x80 : UInt8) ≤ 0xBF)

/-- The reader comes to the state behind the bytes read. -/
theorem Begins.decodeFrom_append
    (h : Begins seen begun)
    (index : Nat)
    (done : List Char)
    (rest : Bytes) :
    decodeFrom index done none (seen ++ rest) = decodeFrom index done (some begun) rest := by
  induction h generalizing rest with
  | lead hlead =>
      have hlow := (bounds_of_begin? hlead).1
      exact decodeFrom_cons_lead (by omega) hlead
  | next hseen hbyte howed ih =>
      rw [List.append_assoc, List.singleton_append, ih, decodeFrom_cons_middle hbyte howed]

/-- What completes a begun character does so wherever in it the reader stands. -/
theorem Begins.encodeChar_of_completes
    {completion : Bytes}
    {value : Nat}
    (h : Begins seen begun)
    (hcompletes : begun.Completes completion value) :
    encodeChar (Char.ofNat value) = seen ++ completion := by
  induction h generalizing completion with
  | lead hlead => exact Utf8.encodeChar_of_completes hlead hcompletes
  | next hseen hbyte howed ih =>
      rw [List.append_assoc, List.singleton_append]
      exact ih (.middle hbyte howed hcompletes)

/-- Every begun character can be completed. -/
theorem Begins.exists_completes
    (h : Begins seen begun) :
    ∃ completion value, begun.Completes completion value := by
  -- The least byte within the limits always goes on, and one byte further fewer are owed.
  induction howed : begun.owed generalizing seen begun with
  | zero =>
      exact ⟨_, _, .last ⟨UInt8.le_refl _, h.low_le_high⟩ howed⟩
  | succ owed ih =>
      have hbyte : begun.low ≤ begun.low ∧ begun.low ≤ begun.high :=
        ⟨UInt8.le_refl _, h.low_le_high⟩
      obtain ⟨completion, value, hcompletes⟩ := ih (.next h hbyte howed) rfl
      exact ⟨_, _, .middle hbyte howed hcompletes⟩

/-- The bytes read of a character are part of the bytes of a character, but not all of them. -/
theorem Begins.isUnfinished
    (h : Begins seen begun) :
    IsUnfinished seen := by
  obtain ⟨completion, value, hcompletes⟩ := h.exists_completes
  have hchar := h.encodeChar_of_completes hcompletes
  refine ⟨Char.ofNat value, ?_, ?_⟩
  · rw [hchar]
    exact List.prefix_append _ _
  · intro hall
    have hnil : completion = [] := List.self_eq_append_right.1 (hall.trans hchar)
    subst hnil
    cases hcompletes

/-- The bytes of a character are read without a fault. -/
theorem decodeFrom_ne_error
    {c : Char}
    {index : Nat}
    {done : List Char}
    {fault : Fault} :
    decodeFrom index done none (encodeChar c) ≠ .error fault := by
  intro herror
  rw [← List.append_nil (encodeChar c), decodeFrom_encodeChar_append] at herror
  cases herror

/-- A byte outside the limits is the next one of no character. -/
theorem Begins.not_prefix
    (h : Begins seen begun)
    (hbyte : ¬(begun.low ≤ byte ∧ byte ≤ begun.high))
    (c : Char) :
    ¬seen ++ [byte] <+: encodeChar c := by
  rintro ⟨rest, hrest⟩
  have hstop :
      decodeFrom 0 [] none (seen ++ ([byte] ++ rest)) = .error (.invalid begun.seen 0) := by
    rw [h.decodeFrom_append, List.singleton_append, decodeFrom, if_neg hbyte]
  rw [← List.append_assoc, hrest] at hstop
  exact decodeFrom_ne_error hstop

/-- A byte that begins nothing is the first one of no character. -/
theorem not_prefix_of_begin?
    (hascii : ¬byte < 0x80)
    (hlead : begin? byte = none)
    (c : Char) :
    ¬[byte] <+: encodeChar c := by
  rintro ⟨rest, hrest⟩
  have hstop : decodeFrom 0 [] none ([byte] ++ rest) = .error (.invalid 1 0) := by
    rw [List.singleton_append, decodeFrom, if_neg hascii, hlead]
  rw [hrest] at hstop
  exact decodeFrom_ne_error hstop

end WithinCharacter

section Stopping

/-- The index that a fault names. -/
def Fault.index : Fault → Nat
  | incomplete index => index
  | invalid _ index => index

/-- Bytes at which the reader stops, the first of them being the one with the given index. -/
inductive Stuck (index : Nat) : Bytes → Fault → Prop
  | ending
      {seen : Bytes}
      {begun : Begun}
      (hseen : Begins seen begun) :
      Stuck index seen (.incomplete index)
  | within
      {seen rest : Bytes}
      {begun : Begun}
      {byte : UInt8}
      (hseen : Begins seen begun)
      (hbyte : ¬(begun.low ≤ byte ∧ byte ≤ begun.high)) :
      Stuck index (seen ++ byte :: rest) (.invalid seen.length index)
  | front
      {rest : Bytes}
      {byte : UInt8}
      (hascii : ¬byte < 0x80)
      (hlead : begin? byte = none) :
      Stuck index (byte :: rest) (.invalid 1 index)

variable {index : Nat}
variable {done : List Char}
variable {bytes rest seen : Bytes}
variable {begun : Begun}
variable {fault : Fault}

/-- Within a character the reader stops there, or goes on behind a completion of it. -/
theorem stuck_or_completes_of_decodeFrom
    (hseen : Begins seen begun)
    (h : decodeFrom index done (some begun) bytes = .error fault) :
    Stuck index (seen ++ bytes) fault ∨
      ∃ c rest, seen ++ bytes = encodeChar c ++ rest ∧
        decodeFrom (index + (encodeChar c).length) (c :: done) none rest = .error fault := by
  induction bytes generalizing seen begun with
  | nil =>
      cases h
      rw [List.append_nil]
      exact .inl (.ending hseen)
  | cons byte bytes ih =>
      by_cases hbyte : begun.low ≤ byte ∧ byte ≤ begun.high
      · cases howed : begun.owed with
        | zero =>
            have hchar := hseen.encodeChar_of_completes (.last hbyte howed)
            rw [decodeFrom_cons_last hbyte howed, hseen.seen_eq] at h
            refine .inr ⟨Char.ofNat (begun.extend byte), bytes, ?_, ?_⟩
            · rw [hchar, List.append_assoc, List.singleton_append]
            · rw [hchar, List.length_append, List.length_singleton, ← Nat.add_assoc]
              exact h
        | succ owed =>
            rw [decodeFrom_cons_middle hbyte howed] at h
            have hnext := ih (.next hseen hbyte howed) h
            rwa [List.append_assoc, List.singleton_append] at hnext
      · rw [decodeFrom, if_neg hbyte, hseen.seen_eq] at h
        cases h
        exact .inl (.within hseen hbyte)

/-- Between characters the reader stops at once, or goes on behind a character. -/
theorem stuck_or_character_of_decodeFrom
    (h : decodeFrom index done none bytes = .error fault) :
    Stuck index bytes fault ∨
      ∃ c rest, bytes = encodeChar c ++ rest ∧
        decodeFrom (index + (encodeChar c).length) (c :: done) none rest = .error fault := by
  cases bytes with
  | nil =>
      cases h
  | cons byte bytes =>
      by_cases hascii : byte < 0x80
      · rw [decodeFrom_cons_ascii index done byte bytes hascii] at h
        refine .inr ⟨Char.ofNat byte.toNat, bytes, ?_, ?_⟩
        · rw [encodeChar_of_ascii hascii, List.singleton_append]
        · rw [encodeChar_of_ascii hascii]
          exact h
      · cases hlead : begin? byte with
        | none =>
            rw [decodeFrom, if_neg hascii, hlead] at h
            cases h
            exact .inl (.front hascii hlead)
        | some begun =>
            rw [decodeFrom, if_neg hascii, hlead] at h
            exact stuck_or_completes_of_decodeFrom (.lead hlead) h

/-- The reader stops behind the bytes of a text. -/
theorem exists_stuck_of_decodeFrom
    {index : Nat}
    {done : List Char}
    {bytes : Bytes}
    (h : decodeFrom index done none bytes = .error fault) :
    ∃ text rest, bytes = encode text ++ rest ∧
      Stuck (index + (encode text).length) rest fault := by
  rcases stuck_or_character_of_decodeFrom h with hstuck | ⟨c, rest, rfl, hrest⟩
  · exact ⟨[], bytes, rfl, hstuck⟩
  · have hshorter : rest.length < (encodeChar c ++ rest).length := by
      have := List.length_pos_iff.2 (encodeChar_ne_nil c)
      rw [List.length_append]
      omega
    obtain ⟨text, others, rfl, hstuck⟩ := exists_stuck_of_decodeFrom hrest
    refine ⟨c :: text, others, ?_, ?_⟩
    · rw [encode_cons, List.append_assoc]
    · rw [encode_cons, List.length_append, ← Nat.add_assoc]
      exact hstuck
termination_by bytes.length

theorem exists_stuck_of_decode
    (h : decode bytes = .error fault) :
    ∃ text rest, bytes = encode text ++ rest ∧ Stuck (encode text).length rest fault := by
  obtain ⟨text, rest, hbytes, hstuck⟩ := exists_stuck_of_decodeFrom h
  rw [Nat.zero_add] at hstuck
  exact ⟨text, rest, hbytes, hstuck⟩

theorem Stuck.index_eq
    (h : Stuck index rest fault) :
    fault.index = index := by
  cases h <;> rfl

/-- No fault is reported in front of the place where the reader began. -/
theorem le_index_of_decodeFrom
    (h : decodeFrom index done none bytes = .error fault) :
    index ≤ fault.index := by
  obtain ⟨text, rest, -, hstuck⟩ := exists_stuck_of_decodeFrom h
  rw [hstuck.index_eq]
  omega

/-- The longest front that is text ends where the fault is. -/
theorem isGreatest_textLengths
    {text : List Char}
    (h : decode (encode text ++ rest) = .error fault)
    (hstuck : Stuck (encode text).length rest fault) :
    IsGreatest (textLengths (encode text ++ rest)) (encode text).length := by
  constructor
  · refine ⟨?_, text, ?_⟩
    · rw [List.length_append]
      omega
    · rw [List.take_left']
      rfl
  · rintro length ⟨hlength, other, hother⟩
    have hfound : (encode other).length = length := by
      rw [hother, List.length_take]
      omega
    rw [decode, ← List.take_append_drop length (encode text ++ rest), ← hother,
      decodeFrom_encode_append] at h
    have hle := le_index_of_decodeFrom h
    rw [hstuck.index_eq] at hle
    omega

/-- Bytes in front of one that no character has there are the longest unfinished character. -/
theorem isGreatest_unfinishedLengths
    {byte : UInt8}
    (hseen : IsUnfinished seen)
    (hbyte : ∀ c, ¬seen ++ [byte] <+: encodeChar c) :
    IsGreatest (unfinishedLengths (seen ++ byte :: rest)) seen.length := by
  constructor
  · refine ⟨?_, ?_⟩
    · rw [List.length_append]
      omega
    · rwa [List.take_left']
      rfl
  · rintro length ⟨-, c, hc, -⟩
    by_contra hlong
    have hpart : seen ++ [byte] <+: (seen ++ byte :: rest).take length := by
      rw [List.prefix_take_iff]
      refine ⟨⟨rest, by simp⟩, ?_⟩
      rw [List.length_append, List.length_singleton]
      omega
    exact hbyte c (hpart.trans hc)

theorem not_isUnfinished_append
    {byte : UInt8}
    (hbyte : ∀ c, ¬seen ++ [byte] <+: encodeChar c) :
    ¬IsUnfinished (seen ++ byte :: rest) := by
  rintro ⟨c, hc, -⟩
  have hpart : seen ++ [byte] <+: seen ++ byte :: rest := ⟨rest, by simp⟩
  exact hbyte c (hpart.trans hc)

theorem isUnfinished_nil : IsUnfinished [] :=
  ⟨default, List.nil_prefix, (encodeChar_ne_nil default).symm⟩

/-- What the reader stops at begins with no character, and as much of it is at fault as is still the
front of one. -/
theorem Stuck.firstFault
    (h : Stuck index rest fault)
    (hindex : IsGreatest (textLengths bytes) index)
    (hrest : bytes.drop index = rest) :
    FirstFault bytes fault := by
  cases h with
  | ending hseen =>
      refine .incomplete hindex ?_
      rw [hrest]
      exact ⟨List.length_pos_iff.1 hseen.length_bounds.1, hseen.isUnfinished⟩
  | @within seen tail begun byte hseen hbyte =>
      have hbounds := hseen.length_bounds
      have hcount : max 1 seen.length = seen.length := by omega
      rw [← hcount]
      refine .invalid hindex ?_ ?_ (by omega)
      · rw [hrest]
        exact ⟨by simp, not_isUnfinished_append (hseen.not_prefix hbyte)⟩
      · rw [hrest]
        exact isGreatest_unfinishedLengths hseen.isUnfinished (hseen.not_prefix hbyte)
  | @front tail byte hascii hlead =>
      -- No front of a character is there but the empty one.
      have hnone := not_prefix_of_begin? hascii hlead
      have hlongest : IsGreatest (unfinishedLengths (bytes.drop index)) 0 := by
        rw [hrest]
        exact @isGreatest_unfinishedLengths tail [] byte isUnfinished_nil hnone
      refine .invalid hindex ?_ hlongest (by decide)
      rw [hrest]
      exact ⟨List.cons_ne_nil _ _, @not_isUnfinished_append tail [] byte hnone⟩

/-- The error of bytes that are not text is their first fault. -/
theorem firstFault_of_decode
    (h : decode bytes = .error fault) :
    FirstFault bytes fault := by
  obtain ⟨text, rest, rfl, hstuck⟩ := exists_stuck_of_decode h
  refine hstuck.firstFault (isGreatest_textLengths h hstuck) ?_
  rw [List.drop_left']
  rfl

end Stopping

end Utf8

namespace Utf16

section Specification

/-- A unit is a surrogate, and the units on both sides leave it without a partner. -/
def IsUnpaired (before : List UInt16) (unit : UInt16) (after : List UInt16) : Prop :=
  (isHighSurrogate unit = true ∧ ∀ next ∈ after.head?, isLowSurrogate next = false) ∨
    (isLowSurrogate unit = true ∧ ∀ last ∈ before.getLast?, isHighSurrogate last = false)

/-- The first surrogate without a partner among units, and the text of the units before it. -/
structure FirstUnpaired (units : List UInt16) (unit : UInt16) (text : List Char) : Prop where
  /-- The surrogate stands behind the units of the text, and belongs to no pair. -/
  found : ∃ after, units = Utf16.units text ++ unit :: after ∧
    IsUnpaired (Utf16.units text) unit after
  /-- No surrogate without a partner stands before it. -/
  first : ∀ before other after, units = before ++ other :: after →
    IsUnpaired before other after → (Utf16.units text).length ≤ before.length

end Specification

section Pairs

variable {before after rest : List UInt16}
variable {unit other : UInt16}

/-- Fewer units in front leave no more partners. -/
theorem IsUnpaired.tail
    (h : IsUnpaired (other :: before) unit after) :
    IsUnpaired before unit after := by
  rcases h with hhigh | ⟨hlow, hlast⟩
  · exact .inl hhigh
  · refine .inr ⟨hlow, fun last hmem => hlast last ?_⟩
    rw [Option.mem_def] at hmem ⊢
    cases before with
    | nil => cases hmem
    | cons first others => rwa [List.getLast?_cons_cons]

theorem not_isUnpaired_of_plain
    (hhigh : isHighSurrogate unit = false)
    (hlow : isLowSurrogate unit = false) :
    ¬IsUnpaired before unit after := by
  rintro (⟨h, -⟩ | ⟨h, -⟩)
  · rw [hhigh] at h
    cases h
  · rw [hlow] at h
    cases h

/-- No unit is both halves of a pair. -/
theorem isHighSurrogate_of_low
    (h : isLowSurrogate unit = true) :
    isHighSurrogate unit = false := by
  rw [isLowSurrogate_iff] at h
  rw [Bool.eq_false_iff, Ne, isHighSurrogate_iff]
  omega

/-- The units of a character are a single one that is no surrogate, or a pair. -/
theorem unitsOfChar_cases
    (c : Char) :
    (∃ unit, unitsOfChar c = [unit] ∧ isHighSurrogate unit = false ∧
        isLowSurrogate unit = false) ∨
      ∃ high low, unitsOfChar c = [high, low] ∧ isHighSurrogate high = true ∧
        isLowSurrogate low = true := by
  have hvalid := toNat_char_valid c
  by_cases hone : c.toNat < 0x10000
  · refine .inl ⟨UInt16.ofNat c.toNat, if_pos hone, ?_, ?_⟩
    · rw [Bool.eq_false_iff, Ne, isHighSurrogate_iff, UInt16.toNat_ofNat']
      omega
    · rw [Bool.eq_false_iff, Ne, isLowSurrogate_iff, UInt16.toNat_ofNat']
      omega
  · refine .inr ⟨_, _, if_neg hone, ?_, ?_⟩
    · rw [isHighSurrogate_iff, UInt16.toNat_ofNat']
      omega
    · rw [isLowSurrogate_iff, UInt16.toNat_ofNat']
      omega

/-- A unit that is no surrogate comes before the first one without a partner. -/
theorem exists_of_isUnpaired_behind_plain
    {plain : UInt16}
    (hhigh : isHighSurrogate plain = false)
    (hlow : isLowSurrogate plain = false)
    (hunits : plain :: rest = before ++ unit :: after)
    (hunpaired : IsUnpaired before unit after) :
    ∃ others, before = plain :: others ∧ rest = others ++ unit :: after := by
  cases before with
  | nil =>
      cases hunits
      exact absurd hunpaired (not_isUnpaired_of_plain hhigh hlow)
  | cons first others =>
      obtain ⟨rfl, hrest⟩ := List.cons.inj hunits
      exact ⟨others, rfl, hrest⟩

/-- Both halves of a pair come before the first surrogate without a partner. -/
theorem exists_of_isUnpaired_behind_pair
    {high low : UInt16}
    (hhigh : isHighSurrogate high = true)
    (hlow : isLowSurrogate low = true)
    (hunits : high :: low :: rest = before ++ unit :: after)
    (hunpaired : IsUnpaired before unit after) :
    ∃ others, before = high :: low :: others ∧ rest = others ++ unit :: after := by
  rcases before with _ | ⟨first, _ | ⟨second, others⟩⟩
  · cases hunits
    rcases hunpaired with ⟨-, hnext⟩ | ⟨hagain, -⟩
    · rw [hnext low rfl] at hlow
      cases hlow
    · rw [isHighSurrogate_of_low hagain] at hhigh
      cases hhigh
  · cases hunits
    rcases hunpaired with ⟨hagain, -⟩ | ⟨-, hlast⟩
    · rw [isHighSurrogate_of_low hlow] at hagain
      cases hagain
    · rw [hlast high rfl] at hhigh
      cases hhigh
  · simp only [List.cons_append, List.cons.injEq] at hunits
    obtain ⟨rfl, rfl, hrest⟩ := hunits
    exact ⟨others, rfl, hrest⟩

/-- Among the units of a text no surrogate is without a partner, whatever comes behind them. -/
theorem length_units_le_of_isUnpaired
    {text : List Char}
    (hunits : units text ++ rest = before ++ unit :: after)
    (hunpaired : IsUnpaired before unit after) :
    (units text).length ≤ before.length := by
  induction text generalizing before with
  | nil =>
      exact Nat.zero_le _
  | cons c text ih =>
      have hcons : units (c :: text) = unitsOfChar c ++ units text := List.flatMap_cons
      rw [hcons, List.append_assoc] at hunits
      rw [hcons, List.length_append]
      rcases unitsOfChar_cases c with ⟨plain, hc, hhigh, hlow⟩ | ⟨high, low, hc, hhigh, hlow⟩
      · rw [hc] at hunits ⊢
        obtain ⟨others, rfl, hrest⟩ :=
          exists_of_isUnpaired_behind_plain hhigh hlow hunits hunpaired
        have hle := ih hrest hunpaired.tail
        simp only [List.length_cons, List.length_nil]
        omega
      · rw [hc] at hunits ⊢
        obtain ⟨others, rfl, hrest⟩ :=
          exists_of_isUnpaired_behind_pair hhigh hlow hunits hunpaired
        have hle := ih hrest hunpaired.tail.tail
        simp only [List.length_cons, List.length_nil]
        omega

end Pairs

section Stopping

variable {order : ByteOrder}

/-- Bytes in an even number are the bytes of units. -/
theorem exists_units_of_even
    (order : ByteOrder)
    {bytes : Bytes}
    (h : bytes.length % 2 = 0) :
    ∃ units : List UInt16, bytes = units.flatMap order.bytes := by
  match bytes with
  | [] => exact ⟨[], rfl⟩
  | [_] => cases h
  | first :: second :: rest =>
      obtain ⟨units, rfl⟩ := exists_units_of_even order ((Nat.add_mod_right _ 2).symm.trans h)
      refine ⟨order.unit first second :: units, ?_⟩
      rw [List.flatMap_cons, bytes_unit]
      rfl

/-- The units of a text do not end within a pair. -/
theorem isHighSurrogate_getLast_units
    {text : List Char}
    {last : UInt16}
    (h : last ∈ (units text).getLast?) :
    isHighSurrogate last = false := by
  induction text with
  | nil =>
      cases h
  | cons c text ih =>
      have hcons : units (c :: text) = unitsOfChar c ++ units text := List.flatMap_cons
      rw [hcons, List.getLast?_append] at h
      cases hrest : (units text).getLast? with
      | some found =>
          rw [hrest] at h ih
          exact ih h
      | none =>
          rw [hrest, Option.none_or] at h
          rcases unitsOfChar_cases c with ⟨plain, hc, hhigh, -⟩ | ⟨high, low, hc, -, hlow⟩
          · rw [hc] at h
            cases h
            exact hhigh
          · rw [hc] at h
            cases h
            exact isHighSurrogate_of_low hlow

/-- The reader stops behind the units of a text, at a high surrogate with no low one behind it or at
a low surrogate.  A high surrogate that waits for its partner counts among the units ahead. -/
theorem exists_unpaired_of_decodeFrom
    {done : List Char}
    {waiting : Option UInt16}
    {bytes : Bytes}
    {text : List Char}
    {unit : UInt16}
    (hwhole : bytes.length % 2 = 0)
    (hwaiting : ∀ high, waiting = some high → isHighSurrogate high = true)
    (h : decodeFrom order done waiting bytes = ⟨text, some unit⟩) :
    ∃ added after, text = done.reverse ++ added ∧
      (waiting.map order.bytes).getD [] ++ bytes =
        (units added ++ unit :: after).flatMap order.bytes ∧
      (isHighSurrogate unit = true ∧ (∀ next ∈ after.head?, isLowSurrogate next = false) ∨
        isLowSurrogate unit = true) := by
  fun_induction decodeFrom order done waiting bytes with
  | case1 done first second rest unit' hhigh ih =>
      have hunit : order.bytes unit' = [first, second] := bytes_unit order first second
      have hfirst : ∀ high, some unit' = some high → isHighSurrogate high = true := by
        rintro high ⟨⟩
        exact hhigh
      obtain ⟨added, after, htext, hbytes, hkind⟩ :=
        ih ((Nat.add_mod_right _ 2).symm.trans hwhole) hfirst h
      refine ⟨added, after, htext, ?_, hkind⟩
      rw [← hbytes, Option.map_some, Option.getD_some, hunit]
      rfl
  | case2 done first second rest unit' hhigh hlow =>
      have hunit : order.bytes unit' = [first, second] := bytes_unit order first second
      obtain ⟨after, rfl⟩ := exists_units_of_even order ((Nat.add_mod_right _ 2).symm.trans hwhole)
      simp only [Decoded.mk.injEq, Option.some.injEq] at h
      obtain ⟨rfl, rfl⟩ := h
      refine ⟨[], after, (List.append_nil _).symm, ?_, .inr hlow⟩
      rw [units, List.flatMap_nil, List.nil_append, List.flatMap_cons, hunit]
      rfl
  | case3 done first second rest unit' hhigh hlow ih =>
      have hunit : order.bytes unit' = [first, second] := bytes_unit order first second
      obtain ⟨added, after, rfl, hbytes, hkind⟩ :=
        ih ((Nat.add_mod_right _ 2).symm.trans hwhole) hwaiting h
      have hplain := unitsOfChar_ofNat (Bool.eq_false_iff.2 hhigh) (Bool.eq_false_iff.2 hlow)
      refine ⟨Char.ofNat unit'.toNat :: added, after, by simp, ?_, hkind⟩
      rw [units, List.flatMap_cons, hplain, List.append_assoc, List.singleton_append,
        List.flatMap_cons, hunit]
      exact congrArg (first :: second :: ·) hbytes
  | case4 done high first second rest unit' hlow ih =>
      have hunit : order.bytes unit' = [first, second] := bytes_unit order first second
      have hnone : ∀ high, none = some high → isHighSurrogate high = true :=
        fun _ hhigh => by cases hhigh
      obtain ⟨added, after, rfl, hbytes, hkind⟩ :=
        ih ((Nat.add_mod_right _ 2).symm.trans hwhole) hnone h
      have hpair := unitsOfChar_charOfPair (hwaiting high rfl) hlow
      refine ⟨charOfPair high unit' :: added, after, by simp, ?_, hkind⟩
      rw [units, List.flatMap_cons, hpair, List.append_assoc, List.cons_append,
        List.singleton_append, List.flatMap_cons, List.flatMap_cons, hunit]
      exact congrArg (order.bytes high ++ first :: second :: ·) hbytes
  | case5 done high first second rest unit' hlow =>
      have hunit : order.bytes unit' = [first, second] := bytes_unit order first second
      obtain ⟨after, rfl⟩ := exists_units_of_even order ((Nat.add_mod_right _ 2).symm.trans hwhole)
      cases h
      refine ⟨[], unit' :: after, (List.append_nil _).symm, ?_, .inl ⟨hwaiting _ rfl, ?_⟩⟩
      · rw [units, List.flatMap_nil, List.nil_append, List.flatMap_cons, List.flatMap_cons, hunit]
        rfl
      · rintro next ⟨⟩
        exact Bool.eq_false_iff.2 hlow
  | case6 rest done waiting hnone hsome =>
      cases h
      -- Fewer than two bytes are left, and their number is even.
      have hrest : rest = [] := by
        rcases rest with _ | ⟨first, _ | ⟨second, others⟩⟩
        · rfl
        · cases hwhole
        · exact (hsome unit first second others rfl rfl).elim
      refine ⟨[], [], (List.append_nil _).symm, ?_, .inl ⟨hwaiting unit rfl, ?_⟩⟩
      · rw [hrest]
        simp [units]
      · intro _ hnext
        cases hnext

/-- The surrogate that the reader reports is the first one without a partner, and the text is that
of the units before it. -/
theorem exists_firstUnpaired_of_decode
    {bytes : Bytes}
    {text : List Char}
    {unit : UInt16}
    (hwhole : bytes.length % 2 = 0)
    (h : decode order bytes = ⟨text, some unit⟩) :
    ∃ units, bytes = units.flatMap order.bytes ∧ FirstUnpaired units unit text := by
  have hnone : ∀ high, none = some high → isHighSurrogate high = true :=
    fun _ hhigh => by cases hhigh
  obtain ⟨_, after, rfl, hbytes, hkind⟩ := exists_unpaired_of_decodeFrom hwhole hnone h
  refine ⟨units text ++ unit :: after, hbytes, ⟨after, rfl, ?_⟩, ?_⟩
  · rcases hkind with hhigh | hlow
    · exact .inl hhigh
    · exact .inr ⟨hlow, fun last => isHighSurrogate_getLast_units⟩
  · intro before other behind hsplit hunpaired
    exact length_units_le_of_isUnpaired hsplit hunpaired

end Stopping

end Utf16
end Text

namespace Encoding

open Text

/-- The first fault of bytes that are not text in an encoding, and the text that is read of them. -/
inductive FirstFault : Encoding → Bytes → DecodeFault → List Char → Prop
  | utf8
      {bytes : Bytes}
      {fault : Utf8.Fault}
      (hfault : Utf8.FirstFault bytes fault) :
      FirstFault .utf8 bytes (.utf8 fault) []
  | oddLength
      {order : Utf16.ByteOrder}
      {bytes : Bytes}
      (hodd : bytes.length % 2 = 1) :
      FirstFault (.utf16 order) bytes .oddLength []
  | unpairedSurrogate
      {order : Utf16.ByteOrder}
      {bytes : Bytes}
      {units : List UInt16}
      {unit : UInt16}
      {text : List Char}
      (hunits : bytes = units.flatMap order.bytes)
      (hunpaired : Utf16.FirstUnpaired units unit text) :
      FirstFault (.utf16 order) bytes (.unpairedSurrogate unit) text

theorem firstFault_of_decode
    {encoding : Encoding}
    {bytes : Bytes}
    {text : List Char}
    {fault : DecodeFault}
    (h : encoding.decode bytes = ⟨text, some fault⟩) :
    encoding.FirstFault bytes fault text := by
  cases encoding with
  | utf8 =>
      rw [decode] at h
      split at h
      · cases h
      · rename_i found hfound
        cases h
        exact .utf8 (Utf8.firstFault_of_decode hfound)
  | utf16 order =>
      rw [decode] at h
      split at h
      · rename_i hwhole
        rcases hread : Utf16.decode order bytes with ⟨read, _ | unit⟩
        · rw [hread] at h
          cases h
        · rw [hread] at h
          cases h
          obtain ⟨units, hunits, hunpaired⟩ := Utf16.exists_firstUnpaired_of_decode hwhole hread
          exact .unpairedSurrogate hunits hunpaired
      · rename_i hodd
        cases h
        exact .oddLength (by omega)

/-- **The first fault is reported.**  Reading bytes that are not text into a buffer fails with the
encoding and the line that were asked for and with the first fault of the bytes, and what the buffer
holds is then determined by the bytes: nothing in UTF-8, and nothing if a unit is cut; otherwise the
text of the units before the surrogate that belongs to no pair. -/
theorem decodeInto_reports_first_fault
    {encoding : Encoding}
    {line : Nat}
    {bytes : Bytes}
    {held text : List Char}
    {error : DecodeError}
    (h : (encoding.decodeInto line bytes).run.run held = (.error error, text)) :
    error.encoding = encoding ∧ error.line = line ∧
      encoding.FirstFault bytes error.fault text := by
  rw [run_decodeInto, decodeLine_eq] at h
  rcases hread : encoding.decode bytes with ⟨read, _ | fault⟩
  · rw [hread] at h
    cases h
  · rw [hread] at h
    cases h
    exact ⟨rfl, rfl, firstFault_of_decode hread⟩

/-- Three bytes of four, and a letter in place of the last one. -/
theorem decodeInto_reports_first_fault_before_letter :
    (utf8.decodeInto 7 [0x61, 0xF0, 0x90, 0x80, 0x41]).run.run ['o', 'l', 'd'] =
        (.error ⟨utf8, 7, .utf8 (.invalid 3 1)⟩, []) ∧
      utf8.FirstFault [0x61, 0xF0, 0x90, 0x80, 0x41] (.utf8 (.invalid 3 1)) [] := by
  have hread : (utf8.decodeInto 7 [0x61, 0xF0, 0x90, 0x80, 0x41]).run.run ['o', 'l', 'd'] =
      (.error ⟨utf8, 7, .utf8 (.invalid 3 1)⟩, []) := by
    rfl
  exact ⟨hread, (decodeInto_reports_first_fault hread).2.2⟩

end Encoding
end XmlPreamble
