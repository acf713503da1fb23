import XmlPreamble.Proofs.FirstPlaces
import XmlPreamble.Proofs.LineSearch

/-!
# The first end of a line

A search for the end of a line goes from code unit to code unit.  What it finds can be told without
the search: the least place, on a unit border counted from where the search begins, at which the
whole code unit is a line feed or a carriage return.  A search may also look at bytes instead of
units.  It then goes from one byte `0A` or `0D` to the next and asks of each whether it lies in the
right half of its unit, with a null byte in the other half.  Both find the same place.

As the place depends on whole units alone, a search that found nothing need not look at the units
again that it has seen when more bytes arrive.

Main statements:

- `finds_findLineEnd`: the search of the units finds the first end of a line;
- `finds_findTellingByte`: so does the search of the bytes;
- `isGreatest_bordersFrom`: the last unit border among the bytes;
- `findLineEnd_is_first_and_resumes`: what a search finds, and where it may be taken up again.
-/

namespace XmlPreamble
namespace Encoding

section Specification

/-- A line ends at `offset`: on a unit border, counted from `start` on, stands a whole code unit
that is a terminator. -/
structure LineEndAt (encoding : Encoding) (bytes : Bytes) (start offset : Nat) : Prop where
  behind : start ≤ offset
  aligned : encoding.unitLength ∣ offset - start
  whole : offset + encoding.unitLength ≤ bytes.length
  ends : ∃ terminator, encoding.terminatorBytes terminator <+: bytes.drop offset

/-- The places at which a line ends. -/
def lineEndPlaces (encoding : Encoding) (bytes : Bytes) (start : Nat) : Set Nat :=
  {offset | encoding.LineEndAt bytes start offset}

/-- The unit borders among the bytes, counted from `start` on. -/
def bordersFrom (encoding : Encoding) (bytes : Bytes) (start : Nat) : Set Nat :=
  {place | place ≤ bytes.length ∧ ∃ count, place = start + count * encoding.unitLength}

/-- Whether the byte `0A` or `0D` stands at a place. -/
def isBreakByte (bytes : Bytes) (place : Nat) : Bool :=
  bytes[place]? == some 0x0A || bytes[place]? == some 0x0D

/-- The places of the bytes `0A` and `0D`, from left to right. -/
def breakBytes (bytes : Bytes) : List Nat :=
  (List.range bytes.length).filter (isBreakByte bytes)

/-- Whether the byte at a place, a `0A` or `0D`, is the low byte of a unit that has a null byte as
the high one.  In UTF-8 the byte is a unit by itself. -/
def tells : Encoding → Bytes → Nat → Bool
  | utf8, _, _ => true
  | utf16 .little, bytes, place => place % 2 == 0 && bytes[place + 1]? == some 0
  | utf16 .big, bytes, place => place % 2 == 1 && bytes[place - 1]? == some 0

/-- The number of bytes of a unit in front of the low one. -/
def bytesBeforeLow : Encoding → Nat
  | utf16 .big => 1
  | _ => 0

/-- The index of the first terminator at or behind `start`, by a search of the bytes. -/
def findTellingByte (encoding : Encoding) (bytes : Bytes) (start : Nat) : Option Nat :=
  let tail := bytes.drop start
  ((breakBytes tail).find? (encoding.tells tail)).map fun place =>
    start + (place - encoding.bytesBeforeLow)

end Specification

section Units

variable {encoding : Encoding}
variable {bytes rest unit : Bytes}
variable {start offset : Nat}

theorem length_terminatorBytes
    (encoding : Encoding)
    (terminator : Terminator) :
    (encoding.terminatorBytes terminator).length = encoding.unitLength := by
  rcases encoding with _ | _ | _ <;> cases terminator <;> rfl

/-- The bytes begin with a terminator just if their first unit is one. -/
theorem terminatorBytes_prefix_iff :
    (∃ terminator, encoding.terminatorBytes terminator <+: bytes) ↔
      (encoding.terminator? bytes).isSome = true := by
  constructor
  · rintro ⟨terminator, rest, rfl⟩
    rcases encoding with _ | _ | _ <;> cases terminator <;> rfl
  · intro h
    obtain ⟨terminator, hterminator⟩ := Option.isSome_iff_exists.1 h
    refine ⟨terminator, ?_⟩
    unfold terminator? at hterminator
    split at hterminator
    · rw [terminatorBytes_utf8 hterminator]
      exact List.prefix_append [_] _
    · rw [terminatorBytes_utf16 hterminator]
      exact List.prefix_append [_, _] _
    · cases hterminator

/-- A line ends in front of all the bytes if their first unit is a terminator. -/
theorem lineEndAt_zero_iff :
    encoding.LineEndAt bytes 0 0 ↔ (encoding.terminator? bytes).isSome = true := by
  rw [← terminatorBytes_prefix_iff]
  constructor
  · intro h
    exact h.ends
  · rintro ⟨terminator, hbegin⟩
    have hlength := hbegin.length_le
    rw [length_terminatorBytes] at hlength
    exact ⟨Nat.le_refl 0, Nat.dvd_zero _, by omega, terminator, hbegin⟩

/-- The places are counted from where the search begins. -/
theorem lineEndAt_drop_iff :
    encoding.LineEndAt (bytes.drop start) 0 offset ↔
      encoding.LineEndAt bytes start (start + offset) := by
  have hunit := encoding.unitLength_pos
  constructor
  · rintro ⟨-, haligned, hwhole, hends⟩
    rw [List.length_drop] at hwhole
    rw [List.drop_drop] at hends
    exact ⟨Nat.le_add_right _ _, by simpa using haligned, by omega, hends⟩
  · rintro ⟨-, haligned, hwhole, hends⟩
    refine ⟨Nat.zero_le _, by simpa using haligned, ?_, ?_⟩
    · rw [List.length_drop]
      omega
    · rw [List.drop_drop]
      exact hends

theorem lineEndPlaces_eq_image
    (encoding : Encoding)
    (bytes : Bytes)
    (start : Nat) :
    encoding.lineEndPlaces bytes start =
      (start + ·) '' encoding.lineEndPlaces (bytes.drop start) 0 := by
  ext offset
  constructor
  · intro h
    obtain ⟨further, rfl⟩ := Nat.exists_eq_add_of_le h.behind
    exact ⟨further, lineEndAt_drop_iff.2 h, rfl⟩
  · rintro ⟨further, h, rfl⟩
    exact lineEndAt_drop_iff.1 h

/-- Behind a unit that is no terminator, lines end where they do in the bytes that follow it. -/
theorem lineEndPlaces_behind_unit
    (hunit : unit.length = encoding.unitLength)
    (hnone : encoding.terminator? (unit ++ rest) = none) :
    encoding.lineEndPlaces (unit ++ rest) 0 =
      (encoding.unitLength + ·) '' encoding.lineEndPlaces rest 0 := by
  have hrest : (unit ++ rest).drop encoding.unitLength = rest := by
    rw [← hunit, List.drop_left]
  rw [← hrest, ← lineEndPlaces_eq_image, hrest]
  ext offset
  constructor
  · intro h
    have hfront : offset ≠ 0 := by
      rintro rfl
      have hsome := lineEndAt_zero_iff.1 h
      rw [hnone] at hsome
      cases hsome
    -- A place on a border that is not the first one lies a whole unit further on.
    have hle : encoding.unitLength ≤ offset := Nat.le_of_dvd (Nat.pos_of_ne_zero hfront) h.aligned
    exact ⟨hle, Nat.dvd_sub h.aligned (Nat.dvd_refl _), h.whole, h.ends⟩
  · intro h
    refine ⟨Nat.zero_le _, ?_, h.whole, h.ends⟩
    exact (Nat.dvd_sub_iff_left h.behind (Nat.dvd_refl _)).1 h.aligned

end Units

section Searching

variable {encoding : Encoding}
variable {bytes : Bytes}

/-- Where the first unit is a terminator, the first end of a line is in front. -/
theorem finds_of_terminator
    (index : Nat)
    (h : (encoding.terminator? bytes).isSome = true) :
    Finds ((index + ·) '' encoding.lineEndPlaces bytes 0) (some index) := by
  refine .least ⟨⟨0, lineEndAt_zero_iff.2 h, rfl⟩, ?_⟩
  rintro _ ⟨offset, -, rfl⟩
  exact Nat.le_add_right index offset

theorem finds_findLineEndFrom
    (encoding : Encoding)
    (index : Nat)
    (bytes : Bytes) :
    Finds ((index + ·) '' encoding.lineEndPlaces bytes 0)
      (encoding.findLineEndFrom index bytes) := by
  fun_induction findLineEndFrom encoding index bytes with
  | case1 index byte rest hend =>
      exact finds_of_terminator index hend
  | case2 index byte rest hend ih =>
      have hnone : utf8.terminator? ([byte] ++ rest) = none := by simpa [terminator?] using hend
      rw [← List.singleton_append, lineEndPlaces_behind_unit rfl hnone, Set.image_image]
      simpa only [unitLength, Nat.add_assoc] using ih
  | case3 order index first second rest hend =>
      exact finds_of_terminator index hend
  | case4 order index first second rest hend ih =>
      have hnone : (utf16 order).terminator? ([first, second] ++ rest) = none := by
        simpa [terminator?] using hend
      have hends := lineEndPlaces_behind_unit rfl hnone
      rw [List.cons_append, List.singleton_append] at hends
      rw [hends, Set.image_image]
      simpa only [unitLength, Nat.add_assoc] using ih
  | case5 bytes encoding index hutf8 hutf16 =>
      refine .nothing ?_
      rw [Set.image_eq_empty, Set.eq_empty_iff_forall_notMem]
      -- Not even one unit is there.
      intro offset h
      have hwhole := h.whole
      cases encoding with
      | utf8 =>
          rcases bytes with _ | ⟨byte, rest⟩
          · simp [unitLength] at hwhole
          · exact hutf8 byte rest rfl rfl
      | utf16 order =>
          rcases bytes with _ | ⟨first, _ | ⟨second, rest⟩⟩
          · simp [unitLength] at hwhole
          · simp [unitLength] at hwhole
          · exact hutf16 order first second rest rfl rfl

/-- The search of the units finds the first end of a line. -/
theorem finds_findLineEnd
    (encoding : Encoding)
    (bytes : Bytes)
    (start : Nat) :
    Finds (encoding.lineEndPlaces bytes start) (encoding.findLineEnd bytes start) := by
  rw [lineEndPlaces_eq_image]
  exact finds_findLineEndFrom encoding start (bytes.drop start)

end Searching

section TellingBytes

variable {encoding : Encoding}
variable {bytes : Bytes}
variable {place offset : Nat}

theorem exists_terminator_iff
    {p : Terminator → Prop} :
    (∃ terminator, p terminator) ↔ p .lineFeed ∨ p .carriageReturn := by
  constructor
  · rintro ⟨terminator, h⟩
    cases terminator with
    | lineFeed => exact Or.inl h
    | carriageReturn => exact Or.inr h
  · rintro (h | h)
    · exact ⟨_, h⟩
    · exact ⟨_, h⟩

theorem terminator_at_iff_utf8 :
    (∃ terminator, utf8.terminatorBytes terminator <+: bytes.drop place) ↔
      isBreakByte bytes place = true := by
  have hfeed : utf8.terminatorBytes .lineFeed = [0x0A] := rfl
  have hreturn : utf8.terminatorBytes .carriageReturn = [0x0D] := rfl
  rw [exists_terminator_iff, hfeed, hreturn]
  simp [isBreakByte, Text.cons_prefix_drop_iff]

theorem terminator_at_iff_little :
    (∃ terminator, (utf16 .little).terminatorBytes terminator <+: bytes.drop place) ↔
      isBreakByte bytes place = true ∧ bytes[place + 1]? = some 0 := by
  have hfeed : (utf16 .little).terminatorBytes .lineFeed = [0x0A, 0] := rfl
  have hreturn : (utf16 .little).terminatorBytes .carriageReturn = [0x0D, 0] := rfl
  rw [exists_terminator_iff, hfeed, hreturn]
  simp [isBreakByte, Text.cons_prefix_drop_iff, or_and_right]

theorem terminator_at_iff_big :
    (∃ terminator, (utf16 .big).terminatorBytes terminator <+: bytes.drop place) ↔
      bytes[place]? = some 0 ∧ isBreakByte bytes (place + 1) = true := by
  have hfeed : (utf16 .big).terminatorBytes .lineFeed = [0, 0x0A] := rfl
  have hreturn : (utf16 .big).terminatorBytes .carriageReturn = [0, 0x0D] := rfl
  rw [exists_terminator_iff, hfeed, hreturn]
  simp [isBreakByte, Text.cons_prefix_drop_iff, and_or_left]

theorem lt_length_of_isBreakByte
    (h : isBreakByte bytes place = true) :
    place < bytes.length := by
  rw [← terminator_at_iff_utf8] at h
  obtain ⟨terminator, hbegin⟩ := h
  have hlength := hbegin.length_le
  rw [length_terminatorBytes, List.length_drop, unitLength] at hlength
  omega

/-- A line ends where the low byte of a unit tells so. -/
theorem lineEndAt_iff_tells :
    encoding.LineEndAt bytes 0 offset ↔
      isBreakByte bytes (offset + encoding.bytesBeforeLow) = true ∧
        encoding.tells bytes (offset + encoding.bytesBeforeLow) = true := by
  rcases encoding with _ | _ | _
  · constructor
    · intro h
      exact ⟨terminator_at_iff_utf8.1 h.ends, rfl⟩
    · rintro ⟨hbreak, -⟩
      have hlt := lt_length_of_isBreakByte hbreak
      exact ⟨Nat.zero_le _, Nat.one_dvd _, hlt, terminator_at_iff_utf8.2 hbreak⟩
  · simp only [tells, bytesBeforeLow, Nat.add_zero, Bool.and_eq_true, beq_iff_eq]
    constructor
    · intro h
      obtain ⟨hbreak, hnull⟩ := terminator_at_iff_little.1 h.ends
      exact ⟨hbreak, Nat.mod_eq_zero_of_dvd h.aligned, hnull⟩
    · rintro ⟨hbreak, heven, hnull⟩
      obtain ⟨hlt, -⟩ := List.getElem?_eq_some_iff.1 hnull
      exact ⟨Nat.zero_le _, Nat.dvd_of_mod_eq_zero heven, hlt,
        terminator_at_iff_little.2 ⟨hbreak, hnull⟩⟩
  · simp only [tells, bytesBeforeLow, Nat.add_sub_cancel, Bool.and_eq_true, beq_iff_eq]
    constructor
    · intro h
      obtain ⟨hnull, hbreak⟩ := terminator_at_iff_big.1 h.ends
      have heven : offset % 2 = 0 := Nat.mod_eq_zero_of_dvd h.aligned
      exact ⟨hbreak, by omega, hnull⟩
    · rintro ⟨hbreak, hodd, hnull⟩
      have hlt := lt_length_of_isBreakByte hbreak
      have heven : offset % 2 = 0 := by omega
      exact ⟨Nat.zero_le _, Nat.dvd_of_mod_eq_zero heven, hlt,
        terminator_at_iff_big.2 ⟨hnull, hbreak⟩⟩

theorem bytesBeforeLow_le_of_tells
    (h : encoding.tells bytes place = true) :
    encoding.bytesBeforeLow ≤ place := by
  rcases encoding with _ | _ | _
  · exact Nat.zero_le _
  · exact Nat.zero_le _
  · simp only [tells, Bool.and_eq_true, beq_iff_eq] at h
    simp only [bytesBeforeLow]
    omega

/-- The bytes that tell of an end lie in the units that are one. -/
theorem image_telling_eq
    (encoding : Encoding)
    (bytes : Bytes) :
    (· - encoding.bytesBeforeLow) '' {place | place < bytes.length ∧
        decide (isBreakByte bytes place = true ∧ encoding.tells bytes place = true) = true} =
      encoding.lineEndPlaces bytes 0 := by
  ext offset
  constructor
  · rintro ⟨place, ⟨-, htest⟩, rfl⟩
    obtain ⟨hbreak, htells⟩ := of_decide_eq_true htest
    apply lineEndAt_iff_tells.2
    rw [Nat.sub_add_cancel (bytesBeforeLow_le_of_tells htells)]
    exact ⟨hbreak, htells⟩
  · intro h
    have htest := lineEndAt_iff_tells.1 h
    exact ⟨offset + encoding.bytesBeforeLow,
      ⟨lt_length_of_isBreakByte htest.1, decide_eq_true htest⟩, Nat.add_sub_cancel _ _⟩

/-- The search of the bytes finds the first end of a line. -/
theorem finds_findTellingByte
    (encoding : Encoding)
    (bytes : Bytes)
    (start : Nat) :
    Finds (encoding.lineEndPlaces bytes start) (encoding.findTellingByte bytes start) := by
  let tail := bytes.drop start
  have hscan := finds_find?_range tail.length fun place =>
    decide (isBreakByte tail place = true ∧ encoding.tells tail place = true)
  have hunits := hscan.map (f := (· - encoding.bytesBeforeLow))
    fun _ _ hle => Nat.sub_le_sub_right hle _
  rw [image_telling_eq] at hunits
  have hplaces := hunits.map (f := (start + ·)) fun _ _ hle => Nat.add_le_add_left hle _
  rw [← lineEndPlaces_eq_image, Option.map_map, ← List.find?_filter] at hplaces
  exact hplaces

end TellingBytes

section Resuming

variable {encoding : Encoding}
variable {bytes : Bytes}
variable {start : Nat}

/-- The last unit border among the bytes lies behind their whole units. -/
theorem isGreatest_bordersFrom
    (encoding : Encoding)
    (h : start ≤ bytes.length) :
    IsGreatest (encoding.bordersFrom bytes start)
      (start + encoding.wholeUnits (bytes.length - start)) := by
  have hwhole : encoding.wholeUnits (bytes.length - start) =
      (bytes.length - start) / encoding.unitLength * encoding.unitLength := by
    rw [wholeUnits, Nat.div_mul_self_eq_mod_sub_self]
  rw [hwhole]
  refine ⟨⟨?_, _, rfl⟩, ?_⟩
  · have := Nat.div_mul_le_self (bytes.length - start) encoding.unitLength
    omega
  · rintro _ ⟨hle, count, rfl⟩
    apply Nat.add_le_add_left
    apply Nat.mul_le_mul_right
    rw [Nat.le_div_iff_mul_le encoding.unitLength_pos]
    omega

/-- **The first end of a line.**  A search finds the least place at which a line ends, counted from
where it begins, and it finds nothing only if there is none.  A search that looks for telling bytes
comes to the same.  Where it found nothing it may be taken up again, however the bytes go on, at the
last unit border of those that it has seen. -/
theorem findLineEnd_is_first_and_resumes
    (encoding : Encoding)
    (bytes : Bytes)
    (start : Nat) :
    (∀ offset, encoding.findLineEnd bytes start = some offset ↔
        IsLeast (encoding.lineEndPlaces bytes start) offset) ∧
      (encoding.findLineEnd bytes start = none ↔
        ∀ offset, ¬encoding.LineEndAt bytes start offset) ∧
      encoding.findLineEnd bytes start = encoding.findTellingByte bytes start ∧
      ∀ more resume, encoding.findLineEnd bytes start = none → start ≤ bytes.length →
        IsGreatest (encoding.bordersFrom bytes start) resume →
          encoding.findLineEnd (bytes ++ more) resume =
            encoding.findLineEnd (bytes ++ more) start := by
  have hfinds := finds_findLineEnd encoding bytes start
  refine ⟨?_, ?_, ?_, ?_⟩
  · intro offset
    exact hfinds.eq_some_iff
  · rw [hfinds.eq_none_iff, Set.eq_empty_iff_forall_notMem]
    rfl
  · exact hfinds.unique (finds_findTellingByte encoding bytes start)
  · intro more resume hnone hstart hresume
    have hborder := hresume.unique (isGreatest_bordersFrom encoding hstart)
    have hgo := findLineEndFrom_append_of_none more hnone
    rw [List.length_drop, ← List.drop_append_of_le_length hstart, List.drop_drop] at hgo
    rw [hborder]
    exact hgo.symm

/-- The bytes `0A 0D` are no line feed, nor are `0D 00` across a border.  The null byte behind them
is the first half of one, which the next byte completes. -/
theorem findLineEnd_resumes_within_unit :
    (utf16 .big).findLineEnd [0xFF, 0x0A, 0x0D, 0x00] 1 = none ∧
      IsLeast ((utf16 .big).lineEndPlaces ([0xFF, 0x0A, 0x0D, 0x00] ++ [0x0A, 0x00]) 1) 3 ∧
      (utf16 .big).findLineEnd ([0xFF, 0x0A, 0x0D, 0x00] ++ [0x0A, 0x00]) 3 =
        (utf16 .big).findLineEnd ([0xFF, 0x0A, 0x0D, 0x00] ++ [0x0A, 0x00]) 1 := by
  have hnone : (utf16 .big).findLineEnd [0xFF, 0x0A, 0x0D, 0x00] 1 = none := by decide
  have hfound : (utf16 .big).findLineEnd ([0xFF, 0x0A, 0x0D, 0x00] ++ [0x0A, 0x00]) 1 = some 3 := by
    decide
  have hborder : IsGreatest ((utf16 .big).bordersFrom [0xFF, 0x0A, 0x0D, 0x00] 1) 3 :=
    isGreatest_bordersFrom (utf16 .big) (by decide)
  obtain ⟨-, -, -, hresume⟩ :=
    findLineEnd_is_first_and_resumes (utf16 .big) [0xFF, 0x0A, 0x0D, 0x00] 1
  obtain ⟨hfirst, -⟩ := findLineEnd_is_first_and_resumes (utf16 .big)
    ([0xFF, 0x0A, 0x0D, 0x00] ++ [0x0A, 0x00]) 1
  exact ⟨hnone, (hfirst 3).1 hfound, hresume _ 3 hnone (by decide) hborder⟩

end Resuming

end Encoding
end XmlPreamble
