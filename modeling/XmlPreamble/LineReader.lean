import XmlPreamble.Line
import XmlPreamble.Source

/-!
# Reading lines from a byte source

A line reader pulls the lines of a document out of a byte source, one at a time and no earlier
than they are asked for.  It keeps the bytes that were delivered and not yet handed on in a buffer.
When the buffer runs out of lines, what is left in it moves to the front and the source is asked
for as many bytes as there is room for behind it; only when a single line fills the whole buffer is
the buffer doubled.  A failure of the source is handed on, and the reader can be asked again.

Of the buffer itself its length is told, and the place at which the unread bytes begin; a
`BufferedReader` has all the bytes in it, and reads the same lines.

Main statements:

- `remaining_fill_lt`: a refill that delivers bytes brings the source closer to its end;
- `remaining_nextLine_lt`: every line takes something off what a reader can still come up with,
  hence the lines of a source come to an end.
-/

namespace XmlPreamble

/-- Why a line could not be delivered. -/
inductive LineError where
  /-- The source failed. -/
  | io (error : IoError)
  /-- The line is not text. -/
  | decode (error : DecodeError)
  deriving DecidableEq, Repr

/-- A source of lines over a source of bytes. -/
structure LineReader where
  /-- Where the bytes come from. -/
  source : Source
  /-- The length of the buffer. -/
  size : Nat
  /-- The place in the buffer at which the unread bytes begin. -/
  start : Nat := 0
  /-- The bytes in the buffer that have not been handed on. -/
  unread : Bytes := []
  /-- Whether the source has reported its end. -/
  exhausted : Bool := false
  /-- The encoding, once it is settled. -/
  encoding : Option Encoding := none
  /-- The numbering of the lines. -/
  count : LineCount := {}
  deriving DecidableEq, Repr

namespace LineReader

/-- The length of the buffer unless the caller asks for another. -/
def defaultCapacity : Nat := 8192

/-- A reader at the beginning of a source, with a buffer of the given length.  The buffer has room
for the bytes that settle the encoding in any case. -/
def ofSource (source : Source) (capacity : Nat) : LineReader where
  source := source
  size := max capacity Encoding.sniffLength

/-- The number of bytes that a reader and its source can still come up with, and a bit more. -/
def remaining (reader : LineReader) : Nat :=
  reader.unread.length + reader.source.weight

section Filling

/-- The length of the buffer in which there is room behind `count` unread bytes. -/
def grownSize (size count : Nat) : Nat :=
  if count = size then size * 2 else size

/-- Moves the unread bytes to the front of the buffer and makes room behind them. -/
def makeRoom (reader : LineReader) : LineReader :=
  { reader with start := 0, size := grownSize reader.size reader.unread.length }

/-- Asks the source for more bytes, and says whether any came. -/
def fill (reader : LineReader) : Except IoError Bool × LineReader :=
  if reader.exhausted then
    (.ok false, reader)
  else
    let roomy := reader.makeRoom
    match roomy.source.readThrough (roomy.size - roomy.unread.length) with
    | (.error error, source) => (.error error, { roomy with source := source })
    | (.ok [], source) => (.ok false, { roomy with source := source, exhausted := true })
    | (.ok (byte :: more), source) =>
        (.ok true, { roomy with source := source, unread := roomy.unread ++ byte :: more })

/-- A refill that delivers bytes brings the source closer to its end, and the unread bytes grow by
no more than the source shrinks. -/
theorem remaining_fill_lt
    {reader next : LineReader}
    (h : reader.fill = (.ok true, next)) :
    next.source.weight < reader.source.weight ∧
      reader.unread.length < next.unread.length ∧
      next.remaining ≤ reader.remaining := by
  simp only [fill] at h
  split at h
  · simp at h
  · split at h
    · simp at h
    · simp at h
    · rename_i byte more source hread
      have hw := Source.weight_readThrough_lt_of_bytes (List.cons_ne_nil byte more) hread
      simp only [Prod.mk.injEq, true_and] at h
      subst h
      simp only [makeRoom, List.length_cons] at hw
      simp only [remaining, makeRoom, List.length_append, List.length_cons]
      omega

end Filling

section Encodings

/-- Refills until the encoding can be told or the source has come to its end. -/
def fillForSniffing (reader : LineReader) : Except IoError Unit × LineReader :=
  if reader.unread.length < Encoding.sniffLength then
    match _h : reader.fill with
    | (.error error, next) => (.error error, next)
    | (.ok false, next) => (.ok (), next)
    | (.ok true, next) => next.fillForSniffing
  else
    (.ok (), reader)
termination_by reader.source.weight
decreasing_by exact (remaining_fill_lt _h).1

/-- Settles the encoding from the unread bytes and passes over the byte order mark. -/
def settleEncoding (reader : LineReader) : LineReader :=
  let encoding := Encoding.sniff reader.unread
  let mark := encoding.signatureLength reader.unread
  { reader with
    encoding := some encoding
    start := reader.start + mark
    unread := reader.unread.drop mark }

/-- The encoding of the document, which the first call settles. -/
def requireEncoding (reader : LineReader) : Except IoError Encoding × LineReader :=
  match reader.encoding with
  | some encoding => (.ok encoding, reader)
  | none =>
      match reader.fillForSniffing with
      | (.error error, next) => (.error error, next)
      | (.ok (), next) => (.ok (Encoding.sniff next.unread), next.settleEncoding)

end Encodings

section Lines

/-- Looks for the end of the first unread line, refilling as often as needed.  No terminator stands
before `searched`.  At the end of the source the unread bytes are the last line, if there are
any. -/
def seekPiece (reader : LineReader) (encoding : Encoding) (searched : Nat) :
    Except IoError (Option (Piece × Bytes)) × LineReader :=
  match encoding.cutPiece? reader.unread searched with
  | some found => (.ok (some found), reader)
  | none =>
      match _h : reader.fill with
      | (.error error, next) => (.error error, next)
      | (.ok true, next) =>
          next.seekPiece encoding (encoding.wholeUnits reader.unread.length)
      | (.ok false, next) =>
          match next.unread with
          | [] => (.ok none, next)
          | unread => (.ok (some (.unterminated unread, [])), next)
termination_by reader.source.weight
decreasing_by exact (remaining_fill_lt _h).1

/-- Passes over a piece, behind which `rest` is unread. -/
def pass (reader : LineReader) (encoding : Encoding) (piece : Piece) (rest : Bytes) : LineReader :=
  { reader with
    start := reader.start + piece.size encoding
    unread := rest
    count := reader.count.advance piece }

/-- The next line without its terminator, or nothing at the end of the source. -/
def nextLine (reader : LineReader) : Except LineError (Option (List Char)) × LineReader :=
  match reader.requireEncoding with
  | (.error error, next) => (.error (.io error), next)
  | (.ok encoding, ready) =>
      match ready.seekPiece encoding 0 with
      | (.error error, next) => (.error (.io error), next)
      | (.ok none, next) => (.ok none, next)
      | (.ok (some (piece, rest)), next) =>
          match encoding.decodePiece next.count piece with
          | .ok text => (.ok (some text), next.pass encoding piece rest)
          | .error error => (.error (.decode error), next.pass encoding piece rest)

end Lines

section Progress

/-- No refill brings the source further from its end. -/
theorem remaining_fill_le (reader : LineReader) : reader.fill.2.remaining ≤ reader.remaining := by
  cases h : reader.fill with
  | mk outcome next =>
      rcases outcome with error | _ | _
      · simp only [fill] at h
        split at h
        · simp at h
        · have hw := Source.weight_readThrough_le reader.makeRoom.source
            (reader.makeRoom.size - reader.makeRoom.unread.length)
          split at h <;> simp only [Prod.mk.injEq, reduceCtorEq, false_and] at h
          rename_i source hread
          rw [hread] at hw
          simp only [makeRoom] at hw
          rw [← h.2]
          simp only [remaining, makeRoom]
          omega
      · simp only [fill] at h
        split at h
        · simp only [Prod.mk.injEq] at h
          exact Nat.le_of_eq (congrArg LineReader.remaining h.2.symm)
        · have hw := Source.weight_readThrough_le reader.makeRoom.source
            (reader.makeRoom.size - reader.makeRoom.unread.length)
          split at h <;>
            simp only [Prod.mk.injEq, reduceCtorEq, Except.ok.injEq, false_and] at h
          rename_i source hread
          rw [hread] at hw
          simp only [makeRoom] at hw
          rw [← h.2]
          simp only [remaining, makeRoom]
          omega
      · exact (remaining_fill_lt h).2.2

theorem remaining_fillForSniffing_le
    (reader : LineReader) :
    reader.fillForSniffing.2.remaining ≤ reader.remaining := by
  fun_induction fillForSniffing reader with
  | case1 reader hshort error next hfill =>
      have := remaining_fill_le reader
      rw [hfill] at this
      exact this
  | case2 reader hshort next hfill =>
      have := remaining_fill_le reader
      rw [hfill] at this
      exact this
  | case3 reader hshort next hfill ih =>
      have := (remaining_fill_lt hfill).2.2
      omega
  | case4 reader hlong =>
      exact Nat.le_refl _

/-- Settling the encoding brings the source no further from its end. -/
theorem remaining_requireEncoding_le
    (reader : LineReader) :
    reader.requireEncoding.2.remaining ≤ reader.remaining := by
  have hle := remaining_fillForSniffing_le reader
  simp only [requireEncoding]
  split
  · exact Nat.le_refl _
  · split
    · rename_i h
      rw [h] at hle
      exact hle
    · rename_i h
      rw [h] at hle
      simp only [settleEncoding, remaining, List.length_drop] at hle ⊢
      omega

/-- A piece that is found takes something off the unread bytes. -/
theorem remaining_seekPiece_lt
    {reader next : LineReader}
    {encoding : Encoding}
    {searched : Nat}
    {piece : Piece}
    {rest : Bytes}
    (h : reader.seekPiece encoding searched = (.ok (some (piece, rest)), next)) :
    rest.length < next.unread.length ∧ next.remaining ≤ reader.remaining := by
  fun_induction seekPiece reader encoding searched with
  | case1 reader searched found hcut =>
      simp only [Prod.mk.injEq, Except.ok.injEq, Option.some.injEq] at h
      obtain ⟨rfl, rfl⟩ := h
      exact ⟨Encoding.cutPiece?_rest_length_lt hcut, Nat.le_refl _⟩
  | case2 reader searched hcut error after hfill =>
      simp at h
  | case3 reader searched hcut after hfill ih =>
      have := (remaining_fill_lt hfill).2.2
      have := ih h
      omega
  | case4 reader searched hcut after hfill hempty =>
      simp at h
  | case5 reader searched hcut after hfill hne =>
      have hle := remaining_fill_le reader
      rw [hfill] at hle
      simp only [Prod.mk.injEq, Except.ok.injEq, Option.some.injEq] at h
      obtain ⟨⟨-, rfl⟩, rfl⟩ := h
      refine ⟨?_, hle⟩
      simpa using List.length_pos_iff.2 hne

/-- Every line brings the source closer to its end. -/
theorem remaining_nextLine_lt
    {reader next : LineReader}
    {text : List Char}
    (h : reader.nextLine = (.ok (some text), next)) :
    next.remaining < reader.remaining := by
  have hready := remaining_requireEncoding_le reader
  simp only [nextLine] at h
  split at h
  · simp at h
  · rename_i encoding ready hencoding
    rw [hencoding] at hready
    split at h
    · simp at h
    · simp at h
    · rename_i piece rest found hseek
      have hfound := remaining_seekPiece_lt hseek
      split at h
      · simp only [Prod.mk.injEq] at h
        rw [← h.2]
        simp only [pass, remaining] at hfound hready ⊢
        omega
      · simp at h

end Progress

end LineReader

end XmlPreamble
