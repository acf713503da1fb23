import XmlPreamble.BufferedReader
import XmlPreamble.Proofs.BufferSteps

/-!
# A reader with its buffer reads the same lines

A line reader is told without its buffer: by the length of the buffer, the place at which the unread
bytes begin, and these bytes.  Here this account is measured against the reader that has the buffer
itself, with two places in it, that moves bytes to the front, writes behind the second place, and
reads a line where an older one has left its text.  Whatever a reader with its buffer does, the
account does too, and both give the same answers.  A reader with its buffer would not pass over more
bytes than there are between its two places; as it is never asked to, it is nowhere held back.

Main statements:

- `toLineReader_room` and `toLineReader_fill`: compaction, growth and refills are as told;
- `toLineReader_consume`: so are the bytes passed over, if there are so many;
- `sameSearch_seekLineEnd` and `toLineReader_takeLine`: the end of a line is found at the same
  place, and the line has the same text and number;
- `toLineReader_nextLine` and `toLineReader_afterCalls`: so are all calls for a line.
-/

namespace XmlPreamble
namespace BufferedReader

open Encoding

section Specification

/-- What is told of a reader without its buffer. -/
def toLineReader (reader : BufferedReader) : LineReader where
  source := reader.source
  size := reader.buffer.length
  start := reader.start
  unread := reader.unread
  exhausted := reader.exhausted
  encoding := reader.encoding
  count := reader.count

/-- The end of the first line of bytes marks off a piece, behind which the rest is left. -/
inductive LineExtent.Marks (encoding : Encoding) (bytes : Bytes) :
    LineExtent → Piece → Bytes → Prop
  | terminated
      {length : Nat}
      {terminator : Terminator}
      (hwhole : length + encoding.unitLength ≤ bytes.length)
      (hends : encoding.terminator? (bytes.drop length) = some terminator) :
      Marks encoding bytes ⟨length, encoding.unitLength⟩ ⟨bytes.take length, some terminator⟩
        (bytes.drop (length + encoding.unitLength))
  | unterminated
      (hne : bytes ≠ []) :
      Marks encoding bytes ⟨bytes.length, 0⟩ (.unterminated bytes) []

/-- Both searches for the end of a line come to the same. -/
inductive SameSearch (encoding : Encoding) :
    Except IoError (Option LineExtent) × BufferedReader →
      Except IoError (Option (Piece × Bytes)) × LineReader → Prop
  | failed
      {error : IoError}
      {next : BufferedReader} :
      SameSearch encoding (.error error, next) (.error error, next.toLineReader)
  | ended
      {next : BufferedReader} :
      SameSearch encoding (.ok none, next) (.ok none, next.toLineReader)
  | found
      {extent : LineExtent}
      {piece : Piece}
      {rest : Bytes}
      {next : BufferedReader}
      (hmarks : extent.Marks encoding next.unread piece rest) :
      SameSearch encoding (.ok (some extent), next) (.ok (some (piece, rest)), next.toLineReader)

/-- The reader after a number of calls for a line. -/
def afterCalls (reader : BufferedReader) : Nat → BufferedReader
  | 0 => reader
  | count + 1 => (reader.afterCalls count).nextLine.2

end Specification

section Filling

variable {reader : BufferedReader}

@[simp] theorem source_toLineReader (reader : BufferedReader) :
    reader.toLineReader.source = reader.source := rfl

@[simp] theorem encoding_toLineReader (reader : BufferedReader) :
    reader.toLineReader.encoding = reader.encoding := rfl

@[simp] theorem unread_toLineReader (reader : BufferedReader) :
    reader.toLineReader.unread = reader.unread := rfl

theorem toLineReader_ofSource
    (source : Source)
    (capacity : Nat) :
    (ofSource source capacity).toLineReader = LineReader.ofSource source capacity := by
  have hunread : (ofSource source capacity).unread = [] :=
    List.eq_nil_of_length_eq_zero (length_unread _)
  rw [toLineReader, hunread]
  simp only [ofSource, List.length_replicate]
  rfl

/-- Compaction keeps all but the places and the bytes that have been handed on. -/
theorem toLineReader_compact (reader : BufferedReader) :
    reader.compact.toLineReader = { reader.toLineReader with start := 0 } := by
  have hunread := reader.unread_compact
  have hstart := reader.start_compact
  have hlength := reader.length_buffer_compact
  rw [toLineReader, hunread, hstart, hlength]
  simp only [compact]
  split <;> rfl

/-- Growth changes nothing but the length of the buffer. -/
theorem toLineReader_grow (reader : BufferedReader) :
    reader.grow.toLineReader =
      { reader.toLineReader with
        size := LineReader.grownSize reader.buffer.length reader.stop } := by
  rw [toLineReader, unread_grow]
  simp only [grow, LineReader.grownSize]
  split
  · simp only [List.length_append, List.length_replicate, Nat.mul_two]
    rfl
  · rfl

/-- Compaction and growth make room behind the unread bytes. -/
theorem toLineReader_room (reader : BufferedReader) :
    reader.compact.grow.toLineReader = reader.toLineReader.makeRoom := by
  rw [toLineReader_grow, toLineReader_compact, stop_compact, length_buffer_compact]
  rfl

/-- The source is asked for as much as there is room for. -/
theorem room_eq (reader : BufferedReader) :
    reader.compact.grow.buffer.length - reader.compact.grow.stop =
      reader.toLineReader.makeRoom.size - reader.toLineReader.makeRoom.unread.length := by
  rw [← toLineReader_room, stop_grow, stop_compact]
  change _ = reader.compact.grow.buffer.length - reader.compact.grow.unread.length
  rw [unread_grow, unread_compact]

theorem toLineReader_store
    {data : Bytes}
    (hfits : reader.stop + data.length ≤ reader.buffer.length) :
    (reader.store data hfits).toLineReader =
      { reader.toLineReader with unread := reader.unread ++ data } := by
  have hlength : (reader.store data hfits).buffer.length = reader.buffer.length := by
    simp only [store, List.length_append, List.length_take, List.length_drop]
    omega
  rw [toLineReader, unread_store, hlength]
  rfl

/-- A refill of the buffer is a refill. -/
theorem toLineReader_fill (reader : BufferedReader) :
    reader.toLineReader.fill = (reader.fill.1, reader.fill.2.toLineReader) := by
  generalize hfill : reader.fill = filled
  by_cases hended : reader.exhausted = true
  · have hclosed : reader.toLineReader.exhausted = true := hended
    rw [fill, if_pos hended] at hfill
    rw [LineReader.fill, if_pos hclosed, ← hfill]
  · have hopen : ¬reader.toLineReader.exhausted = true := hended
    rw [fill, if_neg hended] at hfill
    rw [LineReader.fill, if_neg hopen]
    dsimp only at hfill ⊢
    rw [← room_eq, ← toLineReader_room, source_toLineReader]
    split at hfill
    · rename_i error source hread
      simp only [hread, ← hfill]
      rfl
    · rename_i source hread
      simp only [hread, ← hfill]
      rfl
    · rename_i byte more source hread
      have hstore := toLineReader_store (fits_of_readThrough hread)
      simp only [hread, ← hfill]
      exact congrArg (fun state : LineReader => (Except.ok true, { state with source := source }))
        hstore.symm

theorem fill_toLineReader
    {outcome : Except IoError Bool}
    {next : BufferedReader}
    (hfill : reader.fill = (outcome, next)) :
    reader.toLineReader.fill = (outcome, next.toLineReader) := by
  rw [toLineReader_fill, hfill]

/-- A refill that brings nothing leaves the unread bytes as they are. -/
theorem unread_of_fill_false
    {next : BufferedReader}
    (h : reader.fill = (.ok false, next)) :
    next.unread = reader.unread := by
  simp only [fill] at h
  split at h
  · cases h
    rfl
  · split at h
    · cases h
    · cases h
      exact (unread_grow _).trans (unread_compact _)
    · cases h

/-- Passing over no more than what is unread, the reader is nowhere held back. -/
theorem toLineReader_consume
    {amount : Nat}
    (hwithin : amount ≤ reader.unread.length) :
    (reader.consume amount).toLineReader =
      { reader.toLineReader with
        start := reader.start + amount
        unread := reader.unread.drop amount } := by
  have hheld : min amount (reader.stop - reader.start) = amount := by
    rw [← length_unread]
    exact Nat.min_eq_left hwithin
  rw [toLineReader, unread_consume]
  simp only [consume, hheld]
  rfl

end Filling

section Encodings

theorem toLineReader_fillForSniffing (reader : BufferedReader) :
    reader.toLineReader.fillForSniffing =
      (reader.fillForSniffing.1, reader.fillForSniffing.2.toLineReader) := by
  fun_induction fillForSniffing reader with
  | case1 reader hshort error next hfill =>
      rw [← length_unread] at hshort
      exact LineReader.fillForSniffing_of_fill_error (fill_toLineReader hfill) hshort
  | case2 reader hshort next hfill =>
      rw [← length_unread] at hshort
      exact LineReader.fillForSniffing_of_fill_false (fill_toLineReader hfill) hshort
  | case3 reader hshort next hfill ih =>
      rw [← length_unread] at hshort
      rw [← ih]
      exact LineReader.fillForSniffing_of_fill_true (fill_toLineReader hfill) hshort
  | case4 reader hlong =>
      rw [← length_unread] at hlong
      have hsame : ¬reader.toLineReader.unread.length < sniffLength := hlong
      rw [LineReader.fillForSniffing, if_neg hsame]

/-- The byte order mark lies within the unread bytes. -/
theorem toLineReader_settleEncoding (reader : BufferedReader) :
    reader.settleEncoding.toLineReader = reader.toLineReader.settleEncoding := by
  have hmark := (Encoding.sniff reader.unread).signatureLength_le_length reader.unread
  exact congrArg (fun state : LineReader => { state with encoding := some (sniff reader.unread) })
    (toLineReader_consume hmark)

theorem toLineReader_requireEncoding (reader : BufferedReader) :
    reader.toLineReader.requireEncoding =
      (reader.requireEncoding.1, reader.requireEncoding.2.toLineReader) := by
  rw [LineReader.requireEncoding, requireEncoding, encoding_toLineReader]
  cases reader.encoding with
  | some encoding => rfl
  | none =>
      dsimp only
      rw [toLineReader_fillForSniffing]
      rcases reader.fillForSniffing with ⟨_ | _, next⟩
      · rfl
      · dsimp only
        rw [toLineReader_settleEncoding]
        rfl

end Encodings

section Lines

variable {reader : BufferedReader}
variable {encoding : Encoding}
variable {extent : LineExtent}
variable {piece : Piece}
variable {rest : Bytes}

/-- The end that is found is the one that a piece is cut off at. -/
theorem cutPiece?_of_findLineEnd
    {bytes : Bytes}
    {searched length : Nat}
    (hfound : encoding.findLineEnd bytes searched = some length) :
    ∃ piece rest, encoding.cutPiece? bytes searched = some (piece, rest) ∧
      LineExtent.Marks encoding bytes ⟨length, encoding.unitLength⟩ piece rest := by
  have hcut : encoding.cutPiece? bytes searched =
      some (⟨bytes.take length, encoding.terminator? (bytes.drop length)⟩,
        bytes.drop (length + encoding.unitLength)) := by
    rw [cutPiece?, hfound]
    rfl
  have hsome := isSome_terminator_of_cutPiece? hcut
  obtain ⟨terminator, hends⟩ := Option.isSome_iff_exists.1 hsome
  dsimp only at hends
  rw [hends] at hcut
  exact ⟨_, _, hcut, .terminated (findLineEnd_bounds hfound).2 hends⟩

theorem cutPiece?_of_findLineEnd_none
    {bytes : Bytes}
    {searched : Nat}
    (hnone : encoding.findLineEnd bytes searched = none) :
    encoding.cutPiece? bytes searched = none := by
  rw [cutPiece?, hnone]
  rfl

/-- The search over the buffer is the search over the unread bytes. -/
theorem sameSearch_seekLineEnd
    (reader : BufferedReader)
    (encoding : Encoding)
    (searched : Nat) :
    SameSearch encoding (reader.seekLineEnd encoding searched)
      (reader.toLineReader.seekPiece encoding searched) := by
  fun_induction seekLineEnd reader encoding searched with
  | case1 reader searched length hfound =>
      obtain ⟨piece, rest, hcut, hmarks⟩ := cutPiece?_of_findLineEnd hfound
      rw [LineReader.seekPiece_of_cut hcut]
      exact .found hmarks
  | case2 reader searched hnone error next hfill =>
      rw [LineReader.seekPiece_of_fill_error (fill_toLineReader hfill)
        (cutPiece?_of_findLineEnd_none hnone)]
      exact .failed
  | case3 reader searched hnone buffered next hfill ih =>
      rw [LineReader.seekPiece_of_fill_true (fill_toLineReader hfill)
        (cutPiece?_of_findLineEnd_none hnone),
        unread_toLineReader, wholeUnits, length_unread]
      exact ih
  | case4 reader searched hnone buffered next hfill hempty =>
      have hkept := unread_of_fill_false hfill
      have hnothing : next.toLineReader.unread = [] := by
        rw [unread_toLineReader, hkept]
        exact List.eq_nil_of_length_eq_zero ((length_unread reader).trans hempty)
      rw [LineReader.seekPiece_of_fill_false (fill_toLineReader hfill)
        (cutPiece?_of_findLineEnd_none hnone),
        if_pos hnothing]
      exact .ended
  | case5 reader searched hnone buffered next hfill hne =>
      have hkept := unread_of_fill_false hfill
      have hlength : next.unread.length = buffered := by
        rw [hkept]
        exact length_unread reader
      have hsomething : next.unread ≠ [] := fun hempty => hne (by rw [← hlength, hempty]; rfl)
      rw [LineReader.seekPiece_of_fill_false (fill_toLineReader hfill)
        (cutPiece?_of_findLineEnd_none hnone),
        unread_toLineReader, if_neg hsomething, ← hlength]
      exact .found (.unterminated hsomething)

theorem LineExtent.Marks.length_le
    {bytes : Bytes}
    (hmarks : extent.Marks encoding bytes piece rest) :
    extent.length ≤ bytes.length := by
  cases hmarks with
  | terminated hwhole _ => exact Nat.le_of_add_right_le hwhole
  | unterminated _ => exact Nat.le_refl _

/-- The bytes of the line are those of the piece. -/
theorem slice_eq_body
    (hmarks : extent.Marks encoding reader.unread piece rest) :
    reader.slice reader.start (reader.start + extent.length) = piece.body := by
  have hlength := hmarks.length_le
  have hbehind := reader.drop_start_eq
  rw [slice, List.drop_take, Nat.add_sub_cancel_left, hbehind,
    List.take_append_of_le_length hlength]
  cases hmarks with
  | terminated _ _ => rfl
  | unterminated _ => exact List.take_length

/-- Whatever lies behind the unread bytes, the terminator is told by the unread ones. -/
theorem endsInReturn_eq
    (hmarks : extent.Marks encoding reader.unread piece rest) :
    reader.endsInReturn encoding extent = (piece.terminator == some .carriageReturn) := by
  cases hmarks with
  | @terminated length terminator hwhole hends =>
      have hpos := encoding.unitLength_pos
      have hlength : length ≤ reader.unread.length := Nat.le_of_add_right_le hwhole
      have hunit : encoding.unitLength ≤ (reader.unread.drop length).length := by
        rw [List.length_drop]
        omega
      rw [endsInReturn, isCarriageReturn, ← List.drop_drop, reader.drop_start_eq,
        List.drop_append_of_le_length hlength, terminator?_append _ hunit, hends,
        decide_eq_true hpos, Bool.true_and]
  | unterminated hne => rfl

/-- The empty line that is passed over in the numbering is the piece between a pair. -/
theorem betweenPair_eq
    (count : LineCount)
    (hmarks : extent.Marks encoding reader.unread piece rest) :
    (count.afterCarriageReturn && extent.length == 0 && decide (0 < extent.terminator) &&
        !(piece.terminator == some .carriageReturn)) =
      count.betweenPair piece := by
  cases hmarks with
  | @terminated length terminator hwhole hends =>
      have hpos := encoding.unitLength_pos
      have hempty : (length == 0) = (reader.unread.take length).isEmpty := by
        rw [Bool.eq_iff_iff, beq_iff_eq, List.isEmpty_iff, List.take_eq_nil_iff]
        refine ⟨Or.inl, fun h => h.resolve_right ?_⟩
        intro hnil
        rw [hnil, List.length_nil] at hwhole
        omega
      rw [LineCount.betweenPair, decide_eq_true hpos, Bool.and_true, hempty]
      cases terminator <;> rfl
  | unterminated hne =>
      simp [LineCount.betweenPair, Piece.unterminated]

/-- The lines are numbered like the pieces. -/
theorem countLine_eq
    (hmarks : extent.Marks encoding reader.unread piece rest) :
    reader.countLine encoding extent = reader.count.advance piece := by
  simp only [countLine, LineCount.advance, endsInReturn_eq hmarks,
    betweenPair_eq reader.count hmarks]

/-- A line is passed over together with its terminator. -/
theorem LineExtent.Marks.consume
    {bytes : Bytes}
    (hmarks : extent.Marks encoding bytes piece rest) :
    extent.length + extent.terminator = piece.size encoding ∧
      extent.length + extent.terminator ≤ bytes.length ∧
      bytes.drop (extent.length + extent.terminator) = rest := by
  cases hmarks with
  | @terminated length terminator hwhole _ =>
      have hlength : (bytes.take length).length = length :=
        List.length_take_of_le (Nat.le_of_add_right_le hwhole)
      refine ⟨?_, hwhole, rfl⟩
      rw [Piece.size, hlength]
      rfl
  | unterminated _ => exact ⟨rfl, Nat.le_refl _, List.drop_length⟩

/-- A line that has been read is passed over, whatever the buffer of text holds. -/
theorem toLineReader_passed
    (hmarks : extent.Marks encoding reader.unread piece rest)
    (line : List Char) :
    toLineReader { reader.consume (extent.length + extent.terminator) with
      count := reader.count.advance piece
      line := line } =
      reader.toLineReader.pass encoding piece rest := by
  obtain ⟨hsize, hwithin, hrest⟩ := hmarks.consume
  have hconsumed := toLineReader_consume hwithin
  rw [hrest, hsize] at hconsumed
  rw [hsize]
  exact congrArg (fun state : LineReader => { state with count := reader.count.advance piece })
    hconsumed

/-- A line is read and passed over like the piece. -/
theorem toLineReader_takeLine
    (hmarks : extent.Marks encoding reader.unread piece rest) :
    ((reader.takeLine encoding extent).1, (reader.takeLine encoding extent).2.toLineReader) =
      match encoding.decodePiece reader.count piece with
      | .ok text => (.ok (some text), reader.toLineReader.pass encoding piece rest)
      | .error error => (.error (.decode error), reader.toLineReader.pass encoding piece rest) := by
  rcases hdecoded : encoding.decode piece.body with ⟨text, _ | fault⟩
  · have hline : encoding.decodeLine (reader.count.advance piece).number piece.body = .ok text := by
      rw [decodeLine_eq, hdecoded]
    simp only [takeLine, decodePiece, run_decodeInto, slice_eq_body hmarks, countLine_eq hmarks,
      hline, hdecoded, Except.map]
    rw [← toLineReader_passed hmarks text]
  · have hline : encoding.decodeLine (reader.count.advance piece).number piece.body =
        .error ⟨encoding, (reader.count.advance piece).number, fault⟩ := by
      rw [decodeLine_eq, hdecoded]
    simp only [takeLine, decodePiece, run_decodeInto, slice_eq_body hmarks, countLine_eq hmarks,
      hline, hdecoded, Except.map]
    rw [← toLineReader_passed hmarks text]

end Lines

section Calls

/-- A call for a line comes to the same answer and leaves the same behind. -/
theorem toLineReader_nextLine (reader : BufferedReader) :
    reader.toLineReader.nextLine = (reader.nextLine.1, reader.nextLine.2.toLineReader) := by
  have hready := reader.toLineReader_requireEncoding
  rw [LineReader.nextLine, hready, nextLine]
  rcases reader.requireEncoding with ⟨_ | encoding, ready⟩
  · rfl
  · have hsearch := sameSearch_seekLineEnd ready encoding 0
    dsimp only
    generalize ready.seekLineEnd encoding 0 = sought at hsearch ⊢
    generalize ready.toLineReader.seekPiece encoding 0 = soughtPiece at hsearch ⊢
    cases hsearch with
    | failed => rfl
    | ended => rfl
    | found hmarks => exact (toLineReader_takeLine hmarks).symm

/-- So does any number of calls. -/
theorem toLineReader_afterCalls
    (reader : BufferedReader)
    (count : Nat) :
    (reader.afterCalls count).toLineReader = reader.toLineReader.afterCalls count := by
  induction count with
  | zero => rfl
  | succ count ih =>
      rw [afterCalls, LineReader.afterCalls, ← ih, toLineReader_nextLine]

/-- Behind the second line lies the first byte of it, which compaction has left where it was. -/
example :
    let reader := (ofSource (Source.ofBytes [0x61, 0x0A, 0x62, 0x0A]) 3).afterCalls 2
    reader.buffer = [0x62, 0x0A, 0x62] ∧ reader.unread = [] ∧ reader.line = ['b'] := by
  decide +kernel

end Calls

end BufferedReader
end XmlPreamble
