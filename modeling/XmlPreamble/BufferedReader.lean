import XmlPreamble.LineReader

/-!
# A line reader with its buffer

The unread bytes of a line reader lie in a buffer between two places.  In front of them lies what
has been handed on, and behind them what earlier refills have left, so that a reader must not take
anything from there.  A refill moves the unread bytes to the front, lengthens the buffer when nothing
fits behind them, and has the source write there.  A line is read into a buffer of text that still
holds the line before it.  The two places stay in order and within the buffer whatever is done with a
reader: no reader can be made in which they do not.

Main statements:

- `unread_consume`, `unread_compact`, `unread_grow` and `unread_store`: what becomes of the unread
  bytes;
- `weight_fill_lt`: a refill that delivers bytes brings the source closer to its end, hence every
  loop over refills ends.
-/

namespace XmlPreamble

/-- A line reader with all of its buffer. -/
structure BufferedReader where
  /-- Where the bytes come from. -/
  source : Source
  /-- The bytes of the buffer, those included that mean nothing any more. -/
  buffer : Bytes
  /-- The place at which the unread bytes begin. -/
  start : Nat := 0
  /-- The place behind the unread bytes. -/
  stop : Nat := 0
  /-- Whether the source has reported its end. -/
  exhausted : Bool := false
  /-- The encoding, once it is settled. -/
  encoding : Option Encoding := none
  /-- What the last line has left in the buffer of text. -/
  line : List Char := []
  /-- The numbering of the lines. -/
  count : LineCount := {}
  start_le : start ≤ stop := by omega
  stop_le : stop ≤ buffer.length := by omega

namespace BufferedReader

/-- A reader at the beginning of a source, with a buffer of null bytes. -/
def ofSource (source : Source) (capacity : Nat) : BufferedReader where
  source := source
  buffer := List.replicate (max capacity Encoding.sniffLength) 0

/-- The bytes between two places of the buffer. -/
def slice (reader : BufferedReader) (first last : Nat) : Bytes :=
  (reader.buffer.take last).drop first

/-- The bytes that have not been handed on. -/
def unread (reader : BufferedReader) : Bytes :=
  reader.slice reader.start reader.stop

section Buffer

/-- Passes over a number of unread bytes, or over all of them if there are fewer. -/
def consume (reader : BufferedReader) (amount : Nat) : BufferedReader :=
  { reader with
    start := reader.start + min amount (reader.stop - reader.start)
    start_le := by
      have := reader.start_le
      omega
    stop_le := reader.stop_le }

/-- Moves the unread bytes to the front of the buffer, unless they begin there. -/
def compact (reader : BufferedReader) : BufferedReader :=
  if 0 < reader.start then
    { reader with
      buffer := reader.unread ++ reader.buffer.drop reader.unread.length
      start := 0
      stop := reader.stop - reader.start
      start_le := Nat.zero_le _
      stop_le := by
        have := reader.stop_le
        rw [List.length_append, List.length_drop]
        omega }
  else
    reader

/-- Doubles the buffer if the unread bytes reach to its end.  What is new in it is null. -/
def grow (reader : BufferedReader) : BufferedReader :=
  if reader.stop = reader.buffer.length then
    { reader with
      buffer := reader.buffer ++ List.replicate reader.buffer.length 0
      start_le := reader.start_le
      stop_le := by
        have := reader.stop_le
        rw [List.length_append]
        omega }
  else
    reader

/-- Puts bytes behind the unread ones, where they fit. -/
def store (reader : BufferedReader) (data : Bytes)
    (hfits : reader.stop + data.length ≤ reader.buffer.length) : BufferedReader :=
  { reader with
    buffer := reader.buffer.take reader.stop ++ data ++
      reader.buffer.drop (reader.stop + data.length)
    stop := reader.stop + data.length
    start_le := by
      have := reader.start_le
      omega
    stop_le := by
      rw [List.length_append, List.length_append, List.length_take, List.length_drop]
      omega }

/-- What the source delivers fits behind the unread bytes. -/
theorem fits_of_readThrough
    {reader : BufferedReader}
    {source : Source}
    {data : Bytes}
    (h : reader.source.readThrough (reader.buffer.length - reader.stop) = (.ok data, source)) :
    reader.stop + data.length ≤ reader.buffer.length := by
  have hle := Source.length_readThrough_le h
  have hstop := reader.stop_le
  omega

/-- Asks the source for as many bytes as fit behind the unread ones, and says whether any came. -/
def fill (reader : BufferedReader) : Except IoError Bool × BufferedReader :=
  if reader.exhausted then
    (.ok false, reader)
  else
    let roomy := reader.compact.grow
    match hread : roomy.source.readThrough (roomy.buffer.length - roomy.stop) with
    | (.error error, source) => (.error error, { roomy with source := source })
    | (.ok [], source) => (.ok false, { roomy with source := source, exhausted := true })
    | (.ok (byte :: more), source) =>
        (.ok true,
          { roomy.store (byte :: more) (fits_of_readThrough hread) with source := source })

@[simp] theorem source_compact (reader : BufferedReader) :
    reader.compact.source = reader.source := by
  rw [compact]
  split <;> rfl

@[simp] theorem source_grow (reader : BufferedReader) : reader.grow.source = reader.source := by
  rw [grow]
  split <;> rfl

/-- A refill that delivers bytes brings the source closer to its end. -/
theorem weight_fill_lt
    {reader next : BufferedReader}
    (h : reader.fill = (.ok true, next)) :
    next.source.weight < reader.source.weight := by
  simp only [fill] at h
  split at h
  · cases h
  · split at h
    · cases h
    · cases h
    · rename_i byte more source hread
      cases h
      have hless := Source.weight_readThrough_lt_of_bytes (List.cons_ne_nil byte more) hread
      simp only [source_grow, source_compact, List.length_cons] at hless
      change source.weight < reader.source.weight
      omega

end Buffer

section Encodings

/-- Refills until the encoding can be told or the source has come to its end. -/
def fillForSniffing (reader : BufferedReader) : Except IoError Unit × BufferedReader :=
  if reader.stop - reader.start < Encoding.sniffLength then
    match _h : reader.fill with
    | (.error error, next) => (.error error, next)
    | (.ok false, next) => (.ok (), next)
    | (.ok true, next) => next.fillForSniffing
  else
    (.ok (), reader)
termination_by reader.source.weight
decreasing_by exact weight_fill_lt _h

/-- Settles the encoding from the unread bytes and passes over the byte order mark. -/
def settleEncoding (reader : BufferedReader) : BufferedReader :=
  let encoding := Encoding.sniff reader.unread
  { reader.consume (encoding.signatureLength reader.unread) with encoding := some encoding }

/-- The encoding of the document, which the first call settles. -/
def requireEncoding (reader : BufferedReader) : Except IoError Encoding × BufferedReader :=
  match reader.encoding with
  | some encoding => (.ok encoding, reader)
  | none =>
      match reader.fillForSniffing with
      | (.error error, next) => (.error error, next)
      | (.ok (), next) => (.ok (Encoding.sniff next.unread), next.settleEncoding)

end Encodings

section Lines

/-- Where a line ends: the number of bytes in front of its end, and the number of bytes of the
terminator, or zero if the source has come to its end without one. -/
structure LineExtent where
  length : Nat
  terminator : Nat
  deriving DecidableEq, Repr

/-- Looks for the end of the first unread line, refilling as often as needed.  No terminator stands
before `searched`. -/
def seekLineEnd (reader : BufferedReader) (encoding : Encoding) (searched : Nat) :
    Except IoError (Option LineExtent) × BufferedReader :=
  match encoding.findLineEnd reader.unread searched with
  | some length => (.ok (some ⟨length, encoding.unitLength⟩), reader)
  | none =>
      let buffered := reader.stop - reader.start
      match _h : reader.fill with
      | (.error error, next) => (.error error, next)
      | (.ok true, next) =>
          next.seekLineEnd encoding (buffered - buffered % encoding.unitLength)
      | (.ok false, next) =>
          if buffered = 0 then (.ok none, next) else (.ok (some ⟨buffered, 0⟩), next)
termination_by reader.source.weight
decreasing_by exact weight_fill_lt _h

/-- Whether the terminator behind a line is a carriage return.  What lies behind the line in the
buffer is looked at, up to its end. -/
def endsInReturn (reader : BufferedReader) (encoding : Encoding) (extent : LineExtent) : Bool :=
  0 < extent.terminator &&
    encoding.isCarriageReturn (reader.buffer.drop (reader.start + extent.length))

/-- The numbering behind a line.  The empty line between a carriage return and a line feed belongs
to the line before it. -/
def countLine (reader : BufferedReader) (encoding : Encoding) (extent : LineExtent) :
    LineCount :=
  let endsInReturn := reader.endsInReturn encoding extent
  let between := reader.count.afterCarriageReturn && extent.length == 0 &&
    decide (0 < extent.terminator) && !endsInReturn
  ⟨if between then reader.count.number else reader.count.number + 1, endsInReturn⟩

/-- Reads a line into the buffer of text and passes over it. -/
def takeLine (reader : BufferedReader) (encoding : Encoding) (extent : LineExtent) :
    Except LineError (Option (List Char)) × BufferedReader :=
  let count := reader.countLine encoding extent
  let bytes := reader.slice reader.start (reader.start + extent.length)
  let (outcome, line) := (encoding.decodeInto count.number bytes).run.run reader.line
  let next :=
    { reader.consume (extent.length + extent.terminator) with count := count, line := line }
  match outcome with
  | .ok () => (.ok (some line), next)
  | .error error => (.error (.decode error), next)

/-- The next line without its terminator, or nothing at the end of the source. -/
def nextLine (reader : BufferedReader) :
    Except LineError (Option (List Char)) × BufferedReader :=
  match reader.requireEncoding with
  | (.error error, next) => (.error (.io error), next)
  | (.ok encoding, ready) =>
      match ready.seekLineEnd encoding 0 with
      | (.error error, next) => (.error (.io error), next)
      | (.ok none, next) => (.ok none, next)
      | (.ok (some extent), next) => next.takeLine encoding extent

end Lines

section Unread

variable {reader : BufferedReader}

/-- The unread bytes are those between the two places. -/
theorem length_unread (reader : BufferedReader) :
    reader.unread.length = reader.stop - reader.start := by
  have hstop := reader.stop_le
  rw [unread, slice, List.length_drop, List.length_take]
  omega

/-- Behind the first place lie the unread bytes, and behind the second one what means nothing. -/
theorem drop_start_eq (reader : BufferedReader) :
    reader.buffer.drop reader.start = reader.unread ++ reader.buffer.drop reader.stop := by
  have hstart := reader.start_le
  have hstop := reader.stop_le
  have hfront : reader.start ≤ (reader.buffer.take reader.stop).length := by
    rw [List.length_take]
    omega
  calc
    reader.buffer.drop reader.start =
        (reader.buffer.take reader.stop ++ reader.buffer.drop reader.stop).drop reader.start := by
      rw [List.take_append_drop]
    _ = reader.unread ++ reader.buffer.drop reader.stop := List.drop_append_of_le_length hfront

theorem unread_consume
    (reader : BufferedReader)
    (amount : Nat) :
    (reader.consume amount).unread = reader.unread.drop amount := by
  change (reader.buffer.take reader.stop).drop
      (reader.start + min amount (reader.stop - reader.start)) = _
  rw [← List.drop_drop]
  change reader.unread.drop _ = _
  rw [← length_unread]
  rcases Nat.le_total amount reader.unread.length with hle | hge
  · rw [Nat.min_eq_left hle]
  · rw [Nat.min_eq_right hge, List.drop_length, List.drop_eq_nil_of_le hge]

theorem start_compact (reader : BufferedReader) : reader.compact.start = 0 := by
  rw [compact]
  split
  · rfl
  · omega

theorem unread_compact (reader : BufferedReader) : reader.compact.unread = reader.unread := by
  rw [compact]
  split
  · change ((reader.unread ++ reader.buffer.drop reader.unread.length).take
      (reader.stop - reader.start)).drop 0 = reader.unread
    rw [List.drop_zero, ← length_unread, List.take_left]
  · rfl

/-- Behind compaction the unread bytes are those up to the second place. -/
theorem stop_compact (reader : BufferedReader) :
    reader.compact.stop = reader.unread.length := by
  have hlength := reader.compact.length_unread
  rw [unread_compact, start_compact, Nat.sub_zero] at hlength
  exact hlength.symm

theorem length_buffer_compact (reader : BufferedReader) :
    reader.compact.buffer.length = reader.buffer.length := by
  rw [compact]
  split
  · have hstop := reader.stop_le
    have hlength := reader.length_unread
    simp only [List.length_append, List.length_drop]
    omega
  · rfl

theorem stop_grow (reader : BufferedReader) : reader.grow.stop = reader.stop := by
  rw [grow]
  split <;> rfl

theorem unread_grow (reader : BufferedReader) : reader.grow.unread = reader.unread := by
  rw [grow]
  split
  · rename_i hfull
    change ((reader.buffer ++ List.replicate reader.buffer.length 0).take reader.stop).drop
      reader.start = (reader.buffer.take reader.stop).drop reader.start
    rw [List.take_append_of_le_length reader.stop_le]
  · rfl

theorem unread_store
    {data : Bytes}
    (hfits : reader.stop + data.length ≤ reader.buffer.length) :
    (reader.store data hfits).unread = reader.unread ++ data := by
  have hstart := reader.start_le
  have hstop := reader.stop_le
  have hlength : (reader.buffer.take reader.stop ++ data).length = reader.stop + data.length := by
    rw [List.length_append, List.length_take, Nat.min_eq_left hstop]
  change ((reader.buffer.take reader.stop ++ data ++
    reader.buffer.drop (reader.stop + data.length)).take (reader.stop + data.length)).drop
      reader.start = _
  rw [← hlength, List.take_left, List.drop_append_of_le_length]
  · rfl
  · rw [List.length_take]
    omega

end Unread

end BufferedReader

end XmlPreamble
