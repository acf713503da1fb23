import XmlPreamble.Proofs.EncodingIndependence
import XmlPreamble.Proofs.LineNumbers
import XmlPreamble.Proofs.LinesInTurn

/-!
# The choice of line ends does not change the mode

A document is cut at every line feed and at every carriage return, and a pair of the two is cut
twice, with an empty piece in between.  When lines are written down one after the other, each with
an end of its own, the pieces are thus the lines and some empty pieces; and a line feed that follows
a line ended by a carriage return, with nothing in between, becomes part of a pair.  None of this
matters, since a piece without bytes says nothing.

The encoding could be misread if a line end were taken for a part of what announces one.  Nothing
that announces an encoding holds a line end, so that the first line alone settles it.

Main statements:

- `Encoding.LaidOut.filledLines`: the pieces that have bytes are the lines that have bytes;
- `Detection.exists_mode_of_laidOut`: all the ways to end the lines come to one mode;
- `Detection.mode_of_line_ends`: for documents that are pulled and for those that are pushed.
-/

namespace XmlPreamble

namespace Encoding

/-- The ways to end a line. -/
inductive LineEnding where
  /-- A line feed or a carriage return alone. -/
  | single (terminator : Terminator)
  /-- A carriage return with a line feed behind it. -/
  | pair

/-- The bytes of a line end. -/
def LineEnding.spell (encoding : Encoding) : LineEnding → Bytes
  | single terminator => encoding.terminatorBytes terminator
  | pair => encoding.terminatorBytes .carriageReturn ++ encoding.terminatorBytes .lineFeed

/-- A line without its end: whole code units, none of which is a line feed or a carriage return.
They need not be text. -/
structure RawLine (encoding : Encoding) where
  bytes : Bytes
  whole : bytes.length % encoding.unitLength = 0
  unbroken : ∀ unit ∈ encoding.codeUnits bytes, unit ≠ 0x0A ∧ unit ≠ 0x0D

/-- The bytes of lines in a row, each with some end.  The last line may go without. -/
inductive LaidOut {encoding : Encoding} : List (RawLine encoding) → Bytes → Prop
  | empty :
      LaidOut [] []
  | unended
      (line : RawLine encoding) :
      LaidOut [line] line.bytes
  | ended
      (line : RawLine encoding)
      (ending : LineEnding)
      {lines : List (RawLine encoding)}
      {body : Bytes}
      (rest : LaidOut lines body) :
      LaidOut (line :: lines) (line.bytes ++ ending.spell encoding ++ body)

section Cutting

variable {encoding : Encoding}

/-- Units none of which ends a line belong to the piece as a whole. -/
theorem piecesFrom_append_of_unbroken
    {line : Bytes}
    (held rest : Bytes)
    (hwhole : line.length % encoding.unitLength = 0)
    (hunbroken : ∀ unit ∈ encoding.codeUnits line, unit ≠ 0x0A ∧ unit ≠ 0x0D) :
    encoding.piecesFrom held (line ++ rest) = encoding.piecesFrom (line.reverse ++ held) rest := by
  fun_induction codeUnits encoding line generalizing held with
  | case1 byte line ih =>
      rw [List.forall_mem_cons] at hunbroken
      simp only [List.cons_append, piecesFrom, ofCode?_eq_none_iff.2 hunbroken.1]
      rw [ih _ (Nat.mod_one _) hunbroken.2]
      simp
  | case2 order first second line ih =>
      rw [List.forall_mem_cons] at hunbroken
      simp only [List.cons_append, piecesFrom, ofCode?_eq_none_iff.2 hunbroken.1]
      rw [ih _ _ hunbroken.2]
      · simp
      · simp only [unitLength, List.length_cons] at hwhole ⊢
        omega
  | case3 line encoding hutf8 hutf16 =>
      -- A single byte is no whole unit in the encodings that come here.
      have hnil : line = [] := by
        rcases line with _ | ⟨first, _ | ⟨second, line⟩⟩
        · rfl
        · cases encoding with
          | utf8 => exact (hutf8 _ _ rfl rfl).elim
          | utf16 order => simp [unitLength] at hwhole
        · cases encoding with
          | utf8 => exact (hutf8 _ _ rfl rfl).elim
          | utf16 order => exact (hutf16 _ _ _ _ rfl rfl).elim
      rw [hnil]
      rfl

/-- A terminator ends the piece. -/
theorem piecesFrom_terminatorBytes
    (held rest : Bytes)
    (terminator : Terminator) :
    encoding.piecesFrom held (encoding.terminatorBytes terminator ++ rest) =
      ⟨held.reverse, some terminator⟩ :: encoding.pieces rest := by
  cases terminator with
  | lineFeed =>
      exact piecesFrom_encode_of_some encoding held rest rfl
  | carriageReturn =>
      exact piecesFrom_encode_of_some encoding held rest rfl

/-- The lines of bytes as far as they have bytes themselves. -/
def filledLines (encoding : Encoding) (bytes : Bytes) : List Bytes :=
  ((encoding.pieces bytes).map Piece.body).filter (!·.isEmpty)

/-- A line comes out whole in front of what follows its end. -/
theorem filledLines_line
    (line : RawLine encoding)
    (ending : LineEnding)
    (rest : Bytes) :
    encoding.filledLines (line.bytes ++ ending.spell encoding ++ rest) =
      [line.bytes].filter (!·.isEmpty) ++ encoding.filledLines rest := by
  have hpieces : ∀ more, encoding.pieces (line.bytes ++ more) =
      encoding.piecesFrom (line.bytes.reverse ++ []) more :=
    fun more => piecesFrom_append_of_unbroken [] more line.whole line.unbroken
  rw [filledLines, filledLines, List.append_assoc, hpieces, List.append_nil]
  cases ending with
  | single terminator =>
      rw [LineEnding.spell, piecesFrom_terminatorBytes, List.reverse_reverse, List.map_cons,
        ← List.singleton_append, List.filter_append]
  | pair =>
      rw [LineEnding.spell, List.append_assoc, piecesFrom_terminatorBytes, List.reverse_reverse,
        pieces, piecesFrom_terminatorBytes, List.map_cons, ← List.singleton_append,
        List.filter_append]
      rfl

/-- A line that nothing ends comes out whole. -/
theorem filledLines_unended (line : RawLine encoding) :
    encoding.filledLines line.bytes = [line.bytes].filter (!·.isEmpty) := by
  have hpieces := piecesFrom_append_of_unbroken [] [] line.whole line.unbroken
  rw [List.append_nil, List.append_nil, piecesFrom_nil, List.reverse_reverse] at hpieces
  rw [filledLines, pieces, hpieces, lastPiece]
  split
  · rename_i hempty
    rw [List.isEmpty_iff.1 hempty]
    rfl
  · rfl

/-- The pieces that have bytes are the lines that have bytes, however the lines end. -/
theorem LaidOut.filledLines
    {lines : List (RawLine encoding)}
    {body : Bytes}
    (h : LaidOut lines body) :
    encoding.filledLines body = (lines.map RawLine.bytes).filter (!·.isEmpty) := by
  induction h with
  | empty =>
      rw [Encoding.filledLines, pieces_nil]
      rfl
  | unended line =>
      exact filledLines_unended line
  | ended line ending rest ih =>
      rw [filledLines_line, ih, ← List.filter_append]
      rfl

end Cutting

section FirstLine

variable {line : RawLine utf8}
variable {lines : List (RawLine utf8)}
variable {body : Bytes}

/-- The first line stands at the front, and what is behind it begins with a line end. -/
theorem LaidOut.first
    (h : LaidOut (line :: lines) body) :
    body = line.bytes ∨
      ∃ byte rest, (Terminator.ofCode? (UInt8.toNat byte)).isSome = true ∧
        body = line.bytes ++ byte :: rest := by
  cases h with
  | unended =>
      exact .inl rfl
  | ended _ ending rest =>
      right
      rw [List.append_assoc]
      rcases ending with (_ | _) | _
      · exact ⟨0x0A, _, rfl, rfl⟩
      · exact ⟨0x0D, _, rfl, rfl⟩
      · exact ⟨0x0D, _, rfl, rfl⟩

/-- The first line settles the encoding and the byte order mark. -/
theorem LaidOut.sniff_eq
    (h : LaidOut (line :: lines) body) :
    sniff body = sniff line.bytes ∧
      utf8.signatureLength body = utf8.signatureLength line.bytes := by
  rcases h.first with rfl | ⟨byte, rest, hbyte, rfl⟩
  · exact ⟨rfl, rfl⟩
  · exact ⟨sniff_append_lineBreak hbyte rest, signatureLength_append_lineBreak hbyte utf8 rest⟩

/-- What the first line begins with can be taken off it. -/
theorem LaidOut.exists_of_front
    {front : Bytes}
    {bare : RawLine utf8}
    (hfront : line.bytes = front ++ bare.bytes)
    (h : LaidOut (line :: lines) body) :
    ∃ behind, body = front ++ behind ∧ LaidOut (bare :: lines) behind := by
  cases h with
  | unended =>
      exact ⟨_, hfront, .unended bare⟩
  | ended _ ending rest =>
      refine ⟨_, ?_, .ended bare ending rest⟩
      rw [hfront]
      simp only [List.append_assoc]

/-- A line of UTF-8 is still one without its front. -/
def RawLine.dropFront
    (line : RawLine utf8)
    (count : Nat) : RawLine utf8 where
  bytes := line.bytes.drop count
  whole := Nat.mod_one _
  unbroken := by
    intro unit hunit
    refine line.unbroken unit ?_
    rw [codeUnits_utf8] at hunit ⊢
    exact List.map_subset _ (List.drop_subset count line.bytes) hunit

end FirstLine

/-- The bytes that can stand before the first line: the byte order mark, and in UTF-8 none if the
first line cannot be taken for the beginning of anything else. -/
def OpenedBy (encoding : Encoding) (mark : Bytes) (lines : List (RawLine encoding)) : Prop :=
  mark = encoding.signature ∨
    encoding = utf8 ∧ mark = [] ∧ ∀ line ∈ lines.head?, sniff line.bytes = utf8

end Encoding

namespace Detection

open Encoding

section LaidOut

variable {encoding : Encoding}
variable {lines : List (RawLine encoding)}
variable {document body : Bytes}

/-- Lines come to the same mode in all the ways to end them. -/
theorem mode_transcript_of_laidOut
    (hsniff : sniff document = encoding)
    (hpieces : documentPieces encoding document = encoding.pieces body)
    (hbody : LaidOut lines body) :
    (transcript document).ending.mode =
      Mode.ofLines (encoding.lookAll .start (lines.map RawLine.bytes)) := by
  have hfilled : (documentLines encoding document).filter (!·.isEmpty) =
      (lines.map RawLine.bytes).filter (!·.isEmpty) := by
    rw [documentLines, hpieces]
    exact hbody.filledLines
  rw [mode_transcript, hsniff, ← lookAll_of_filter, hfilled, lookAll_of_filter]

/-- They do behind the byte order mark of their encoding. -/
theorem mode_transcript_of_marked
    (hbody : LaidOut lines body) :
    (transcript (encoding.signature ++ body)).ending.mode =
      Mode.ofLines (encoding.lookAll .start (lines.map RawLine.bytes)) :=
  mode_transcript_of_laidOut (sniff_signature_append encoding body)
    (documentPieces_signature_append encoding body) hbody

/-- They do without a byte order mark, unless the first line is taken for something else. -/
theorem exists_mode_of_unmarked
    {lines : List (RawLine utf8)}
    (hfirst : ∀ line ∈ lines.head?, sniff line.bytes = utf8) :
    ∃ mode, ∀ body, LaidOut lines body → (transcript body).ending.mode = mode := by
  cases lines with
  | nil =>
      refine ⟨(transcript []).ending.mode, ?_⟩
      rintro body ⟨⟩
      rfl
  | cons line lines =>
      have hutf8 : sniff line.bytes = utf8 := hfirst line rfl
      by_cases hmark : utf8.signature <+: line.bytes
      · -- The front of the first line is read as a byte order mark.
        obtain ⟨bare, hfront⟩ : ∃ bare : RawLine utf8,
            line.bytes = utf8.signature ++ bare.bytes :=
          ⟨line.dropFront utf8.signature.length, (List.prefix_iff_eq_append.1 hmark).symm⟩
        refine ⟨Mode.ofLines (utf8.lookAll .start ((bare :: lines).map RawLine.bytes)), ?_⟩
        intro body hbody
        obtain ⟨behind, rfl, hbehind⟩ := hbody.exists_of_front hfront
        exact mode_transcript_of_marked hbehind
      · have hnone : utf8.signatureLength line.bytes = 0 := by
          rw [signatureLength, if_neg (fun h => hmark (List.isPrefixOf_iff_prefix.1 h))]
        refine ⟨Mode.ofLines (utf8.lookAll .start ((line :: lines).map RawLine.bytes)), ?_⟩
        intro body hbody
        obtain ⟨hsniff, hlength⟩ := hbody.sniff_eq
        refine mode_transcript_of_laidOut (hsniff.trans hutf8) ?_ hbody
        rw [documentPieces, hlength, hnone, List.drop_zero]

/-- Lines come to one mode, however they end, behind anything that can stand before them. -/
theorem exists_mode_of_laidOut
    {mark : Bytes}
    (hmark : encoding.OpenedBy mark lines) :
    ∃ mode, ∀ body, LaidOut lines body → (transcript (mark ++ body)).ending.mode = mode := by
  rcases hmark with rfl | ⟨rfl, rfl, hfirst⟩
  · exact ⟨_, fun body hbody => mode_transcript_of_marked hbody⟩
  · exact exists_mode_of_unmarked hfirst

/-- **The choice of line ends does not change the mode.**  Take lines of whole code units, text or
not, behind the byte order mark of their encoding, or in UTF-8 without one, unless the first line is
then taken for something else.  Two documents that have these lines, each with ends of its own and
the last one possibly without, have the same mode, whether they are pulled or pushed, through
whatever buffers and in whatever chunks. -/
theorem mode_of_line_ends
    {mark body other : Bytes}
    {chunks otherChunks : List Bytes}
    (hmark : encoding.OpenedBy mark lines)
    (hbody : LaidOut lines body)
    (hother : LaidOut lines other)
    (hchunks : chunks.flatten = mark ++ body)
    (hotherChunks : otherChunks.flatten = mark ++ other)
    (capacity otherCapacity : Nat) :
    detectBytes (mark ++ body) capacity = detectBytes (mark ++ other) otherCapacity ∧
      (Detector.feedThenFinish chunks).1.answer = (Detector.feedThenFinish otherChunks).1.answer ∧
      detectBytes (mark ++ body) capacity = (Detector.feedThenFinish chunks).1.answer := by
  obtain ⟨mode, hmode⟩ := exists_mode_of_laidOut hmark
  have hfirst := hmode body hbody
  have hsecond := hmode other hother
  rw [detectBytes_eq, detectBytes_eq, Detector.answer_feedThenFinish,
    Detector.answer_feedThenFinish, hchunks, hotherChunks, hfirst, hsecond]
  exact ⟨rfl, rfl, rfl⟩

/-- A comment with an empty line in it and a line of a byte that is not text behind the root.  In
one document the empty line is lost in a pair, and the last line has an end in the other only. -/
theorem mode_of_line_ends_around_pair :
    let body : Bytes :=
      [0x3C, 0x21, 0x2D, 0x2D, 0x0D, 0x0A, 0x2D, 0x2D, 0x3E, 0x3C, 0x61, 0x0D, 0xFF]
    let other : Bytes :=
      [0x3C, 0x21, 0x2D, 0x2D, 0x0D, 0x0A, 0x0D, 0x0A, 0x2D, 0x2D, 0x3E, 0x3C, 0x61, 0x0A,
        0xFF, 0x0D]
    detectBytes body 0 = detectBytes other 8 ∧
      (Detector.feedThenFinish [body]).1.answer =
        (Detector.feedThenFinish [[0x3C], other.drop 1]).1.answer ∧
      detectBytes body 0 = (Detector.feedThenFinish [body]).1.answer := by
  intro body other
  let opening : RawLine utf8 := ⟨[0x3C, 0x21, 0x2D, 0x2D], by decide, by decide⟩
  let blank : RawLine utf8 := ⟨[], by decide, by decide⟩
  let root : RawLine utf8 := ⟨[0x2D, 0x2D, 0x3E, 0x3C, 0x61], by decide, by decide⟩
  let broken : RawLine utf8 := ⟨[0xFF], by decide, by decide⟩
  have hbody : LaidOut [opening, blank, root, broken] body :=
    .ended opening (.single .carriageReturn) (.ended blank (.single .lineFeed)
      (.ended root (.single .carriageReturn) (.unended broken)))
  have hother : LaidOut [opening, blank, root, broken] other :=
    .ended opening .pair (.ended blank .pair
      (.ended root (.single .lineFeed) (.ended broken (.single .carriageReturn) .empty)))
  have hmark : utf8.OpenedBy [] [opening, blank, root, broken] := by
    refine .inr ⟨rfl, rfl, ?_⟩
    rintro line ⟨⟩
    decide
  exact mode_of_line_ends hmark hbody hother rfl rfl 0 8

end LaidOut

end Detection
end XmlPreamble
