import XmlPreamble.Detection.Event

/-!
# Detection by feeding chunks

A detector is fed a document in chunks of any length.  Every line that is complete is looked at
as soon as it is there; what comes behind the last terminator is held back.  Once a line decides,
the detector drops what it held and takes in nothing more.

Main statements:

- `Detector.feed_of_decided`: a detector that has decided is not changed by a chunk;
- `Detector.advance_decide`: a detector that comes to an answer holds nothing back;
- `Detector.finish_isDecided`: after the end of the input a detector has decided.
-/

namespace XmlPreamble.Detection

/-- A detector between two chunks. -/
structure Detector where
  /-- The bytes held back until the line is complete or the encoding is settled. -/
  buffer : Bytes := []
  /-- The number of bytes held back that were searched for a terminator already. -/
  searched : Nat := 0
  /-- The encoding, once it is settled. -/
  encoding : Option Encoding := none
  /-- What is carried from line to line. -/
  state : Scan.State := .start
  /-- The answer, once there is one. -/
  decision : Option Mode := none
  /-- The numbering of the lines. -/
  count : LineCount := {}
  /-- The number of bytes fed before there was an answer. -/
  bytesSeen : Nat := 0
  deriving DecidableEq, Repr, Inhabited

namespace Detector

/-- A detector before the first chunk. -/
def fresh : Detector := {}

section Ending

/-- The detector that has come to an answer. -/
def decide (detector : Detector) (mode : Mode) : Detector :=
  { detector with decision := some mode, buffer := [], searched := 0 }

/-- The detector whose scan has ended with a verdict, and the event that tells of it. -/
def conclude (detector : Detector) (verdict : Scan.Verdict) : Detector × List Event :=
  (detector.decide (Mode.ofVerdict verdict),
    [.concluded (Mode.ofVerdict verdict) verdict detector.count.number
      (.bytes detector.bytesSeen)])

/-- The detector that met a line that is not text, and the event that tells of it. -/
def giveUp (detector : Detector) (error : DecodeError) : Detector × List Event :=
  (detector.decide .auto, [.undecodable error])

end Ending

section Lines

/-- The next line of the bytes held back and what comes behind it.  At the end of the input, bytes
that no terminator ends are a line too. -/
def nextPiece? (detector : Detector) (encoding : Encoding) (atEnd : Bool) :
    Option (Piece × Bytes) :=
  match encoding.cutPiece? detector.buffer detector.searched with
  | some found => some found
  | none =>
      if atEnd && !detector.buffer.isEmpty then
        some (.unterminated detector.buffer, [])
      else
        none

theorem nextPiece?_length_lt
    {detector : Detector}
    {encoding : Encoding}
    {atEnd : Bool}
    {piece : Piece}
    {rest : Bytes}
    (h : detector.nextPiece? encoding atEnd = some (piece, rest)) :
    rest.length < detector.buffer.length := by
  simp only [nextPiece?] at h
  split at h
  · rename_i found hcut
    cases h
    exact Encoding.cutPiece?_rest_length_lt hcut
  · split at h
    · rename_i hend
      simp only [Option.some.injEq, Prod.mk.injEq] at h
      obtain ⟨-, rfl⟩ := h
      simp only [Bool.and_eq_true, Bool.not_eq_true', List.isEmpty_eq_false_iff] at hend
      simpa using List.length_pos_iff.2 hend.2
    · simp at h

/-- The detector behind a piece that is about to be looked at. -/
def pass (detector : Detector) (encoding : Encoding) (piece : Piece) (rest : Bytes) : Detector :=
  { detector with
    buffer := rest
    searched := detector.searched - piece.size encoding
    count := detector.count.advance piece }

/-- Looks at the lines held back, as many as there are. -/
def scan (detector : Detector) (encoding : Encoding) (atEnd : Bool) : Detector × List Event :=
  match _h : detector.nextPiece? encoding atEnd with
  | none =>
      if atEnd then
        detector.conclude .proceed
      else
        ({ detector with searched := encoding.wholeUnits detector.buffer.length }, [])
  | some (piece, rest) =>
      let passed := detector.pass encoding piece rest
      match encoding.decodePiece detector.count piece with
      | .error error => passed.giveUp error
      | .ok line =>
          let (verdict, state) := detector.state.classify line
          let looked := { passed with state := state }
          if verdict.isFinal then looked.conclude verdict else looked.scan encoding atEnd
termination_by detector.buffer.length
decreasing_by exact nextPiece?_length_lt _h

end Lines

section Encodings

/-- Whether the encoding can be told from the bytes held back. -/
def canSniff (detector : Detector) (atEnd : Bool) : Bool :=
  atEnd || Encoding.sniffLength ≤ detector.buffer.length

/-- Settles the encoding from the bytes held back and passes over the byte order mark. -/
def settleEncoding (detector : Detector) : Detector :=
  let encoding := Encoding.sniff detector.buffer
  { detector with
    encoding := some encoding
    buffer := detector.buffer.drop (encoding.signatureLength detector.buffer) }

/-- Settles the encoding if need be, and looks at the lines held back. -/
def advance (detector : Detector) (atEnd : Bool) : Detector × List Event :=
  match detector.encoding with
  | some encoding => detector.scan encoding atEnd
  | none =>
      if detector.canSniff atEnd then
        detector.settleEncoding.scan (Encoding.sniff detector.buffer) atEnd
      else
        (detector, [])

end Encodings

section Interface

/-- Whether there is an answer. -/
def isDecided (detector : Detector) : Bool :=
  detector.decision.isSome

/-- The detector after one more chunk, and what it told its observer meanwhile. -/
def feed (detector : Detector) (chunk : Bytes) : Detector × List Event :=
  if detector.isDecided then
    (detector, [])
  else
    { detector with
      bytesSeen := detector.bytesSeen + chunk.length
      buffer := detector.buffer ++ chunk }.advance false

/-- The answer of a detector after the end of its input. -/
def answer (detector : Detector) : Mode :=
  detector.decision.getD .xsd

/-- The detector after the end of the input, and what it told its observer meanwhile. -/
def finish (detector : Detector) : Detector × List Event :=
  let (seen, events) := if detector.isDecided then (detector, []) else detector.advance true
  (seen.decide seen.answer, events)

end Interface

section Laws

/-- A detector that has decided is not changed by a chunk. -/
theorem feed_of_decided
    {detector : Detector}
    (h : detector.isDecided = true)
    (chunk : Bytes) :
    detector.feed chunk = (detector, []) := by
  simp [feed, h]

/-- A scan comes to an answer and holds nothing back, or more may come and the answer is left as it
was. -/
theorem scan_decide
    (detector : Detector)
    (encoding : Encoding)
    (atEnd : Bool) :
    let seen := (detector.scan encoding atEnd).1
    seen.decide seen.answer = seen ∨ (atEnd = false ∧ seen.decision = detector.decision) := by
  fun_induction scan detector encoding atEnd with
  | case1 => exact .inl rfl
  | case2 detector hnone hgoing => exact .inr ⟨Bool.eq_false_iff.2 hgoing, rfl⟩
  | case3 => exact .inl rfl
  | case4 => exact .inl rfl
  | case5 detector piece rest hpiece passed line hline verdict state hstep looked hfinal ih =>
      exact ih

/-- So does every look at what is held back. -/
theorem advance_decide
    (detector : Detector)
    (atEnd : Bool) :
    let seen := (detector.advance atEnd).1
    seen.decide seen.answer = seen ∨ (atEnd = false ∧ seen.decision = detector.decision) := by
  rw [advance]
  split
  · exact scan_decide detector _ atEnd
  · split
    · exact scan_decide detector.settleEncoding _ atEnd
    · rename_i hcannot
      rw [canSniff, Bool.or_eq_true, not_or] at hcannot
      exact .inr ⟨Bool.eq_false_iff.2 hcannot.1, rfl⟩

/-- The end of the input comes to an answer by the last look at what is held back. -/
theorem finish_of_undecided
    {detector : Detector}
    (h : detector.isDecided = false) :
    detector.finish = detector.advance true := by
  rcases detector.advance_decide true with hseen | ⟨hgoing, -⟩
  · rw [finish, h]
    exact congrArg (·, (detector.advance true).2) hseen
  · cases hgoing

/-- A detector that has decided comes to the same answer once more, and tells of nothing. -/
theorem finish_of_decided
    {detector : Detector}
    {mode : Mode}
    (h : detector.decision = some mode) :
    detector.finish = (detector.decide mode, []) := by
  simp only [finish, isDecided, answer, h, Option.isSome_some, if_true, Option.getD_some]

/-- After the end of the input a detector has decided. -/
theorem finish_isDecided (detector : Detector) : detector.finish.1.isDecided = true := by
  rfl

end Laws

end Detector

end XmlPreamble.Detection
