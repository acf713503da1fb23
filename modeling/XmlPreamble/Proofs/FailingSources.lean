import XmlPreamble.Proofs.FeedingInParts

/-!
# A failure shows only where the bytes before it do not decide

A source that fails races against the document that it delivers: the reader may hold several whole
lines, half a line or less than the encoding takes to be told when it meets the failure.  A detector
that is fed the bytes before the failure is the measure for this race.  At every line the reader and
the detector that stands in for it find the same complete piece or none at all, and where there is
none the detector is undecided and the reader asks the source and fails.

Main statements:

- `nextLine_of_obstacle`: in front of a failure, a reader hands on the first complete piece ahead,
  and fails if there is none;
- `scanLines_of_obstacle`: a run says what the detector says that stands in for its reader;
- `detect_of_failing`: a run over a failing source is decided by the bytes before the failure, or
  fails with it.
-/

namespace XmlPreamble

namespace Encoding

variable {encoding : Encoding}
variable {bytes other : Bytes}

/-- The pieces of bytes tell the bytes. -/
theorem pieces_injective
    (h : encoding.pieces bytes = encoding.pieces other) :
    bytes = other := by
  rw [← encoding.flatMap_spelling_pieces bytes, h, encoding.flatMap_spelling_pieces]

/-- Bytes that are at most a last piece hold no terminator. -/
theorem cutPiece?_of_pieces_eq_lastPiece
    (h : encoding.pieces bytes = lastPiece bytes) :
    encoding.cutPiece? bytes 0 = none := by
  cases hcut : encoding.cutPiece? bytes 0 with
  | none =>
      rfl
  | some found =>
      have hlength := cutPiece?_length hcut
      have hpos := encoding.unitLength_pos
      rw [pieces_eq_cons hcut, lastPiece] at h
      split at h
      · cases h
      · rw [(List.cons.inj h).1] at hlength
        simp only [Piece.unterminated] at hlength
        omega

end Encoding

namespace Source

/-- The source hands out a document, over any number of calls, and then fails for good. -/
def FailsAfter (source : Source) (document : Bytes) (error : IoError) : Prop :=
  upcoming source.script = document ∧ obstacle? source.script = some error

instance (source : Source) (document : Bytes) (error : IoError) :
    Decidable (source.FailsAfter document error) :=
  inferInstanceAs (Decidable (_ ∧ _))

/-- An interruption is never the failure that is met in the end. -/
theorem kind_of_obstacle?
    {script : List Delivery}
    {error : IoError}
    (h : obstacle? script = some error) :
    error.kind ≠ .interrupted := by
  fun_induction obstacle? script with
  | case1 =>
      cases h
  | case2 =>
      cases h
  | case3 byte more script ih =>
      exact ih h
  | case4 found script hkind ih =>
      exact ih h
  | case5 found script hkind =>
      cases h
      exact hkind

end Source

namespace LineReader

open Encoding Detection

section CompletePieces

variable {reader next : LineReader}
variable {encoding : Encoding}
variable {error : IoError}

/-- The bytes ahead without the byte order mark, if they may begin with one. -/
def bodyAhead (reader : LineReader) : Bytes :=
  match reader.encoding with
  | some _ => reader.ahead
  | none => reader.ahead.drop ((sniff reader.ahead).signatureLength reader.ahead)

/-- Whether the bytes ahead are too few for the encoding to be told before more of them come. -/
def isUntold (reader : LineReader) : Bool :=
  reader.encoding.isNone && decide (reader.ahead.length < sniffLength)

/-- The first piece ahead and what lies behind it, if a terminator ends that piece. -/
def completePiece? (reader : LineReader) : Option (Piece × Bytes) :=
  if reader.isUntold then none else reader.encodingAhead.cutPiece? reader.bodyAhead 0

theorem piecesAhead_eq (reader : LineReader) :
    reader.piecesAhead = reader.encodingAhead.pieces reader.bodyAhead := by
  rw [piecesAhead, bodyAhead, encodingAhead]
  split
  · rename_i hsettled
    rw [hsettled]
    rfl
  · rename_i hunsettled
    rw [hunsettled]
    rfl

theorem Settles.ahead_eq
    {ready : LineReader}
    (h : reader.Settles encoding ready) :
    ready.ahead = reader.bodyAhead := by
  have hpieces : encoding.pieces ready.ahead = encoding.pieces reader.bodyAhead := by
    rw [h.pieces, piecesAhead_eq, h.sniffed]
  exact pieces_injective hpieces

/-- In front of a failure the encoding is told only by bytes that are there. -/
theorem length_ahead_of_fillForSniffing
    (hsized : reader.Sized)
    (hobstacle : reader.obstacle? = some error)
    (h : reader.fillForSniffing = (.ok (), next)) :
    sniffLength ≤ reader.ahead.length := by
  fun_induction fillForSniffing reader with
  | case1 reader hshort found after hfill =>
      cases h
  | case2 reader hshort after hfill =>
      rw [(fill_false hsized hfill).2.2.2] at hobstacle
      cases hobstacle
  | case3 reader hshort after hfill ih =>
      obtain ⟨hsame, -⟩ := fill_true hsized hfill
      have hlong := ih hsame.sized (hsame.obstacle.trans hobstacle) h
      rwa [hsame.ahead] at hlong
  | case4 reader hlong =>
      rw [ahead, List.length_append]
      omega

theorem isUntold_of_requireEncoding_error
    (hsized : reader.Sized)
    (h : reader.requireEncoding = (.error error, next)) :
    reader.isUntold = true := by
  simp only [requireEncoding] at h
  split at h
  · cases h
  · rename_i hunsettled
    split at h
    · rename_i failure after hfill
      have hshort := (fillForSniffing_error hsized hfill).1
      rw [isUntold, hunsettled, decide_eq_true hshort]
      rfl
    · cases h

theorem isUntold_of_requireEncoding_ok
    {ready : LineReader}
    (hsized : reader.Sized)
    (hobstacle : reader.obstacle? = some error)
    (h : reader.requireEncoding = (.ok encoding, ready)) :
    reader.isUntold = false := by
  simp only [requireEncoding] at h
  split at h
  · rename_i found hsettled
    rw [isUntold, hsettled]
    rfl
  · split at h
    · cases h
    · rename_i filled hfill
      have hlong := length_ahead_of_fillForSniffing hsized hobstacle hfill
      rw [isUntold, decide_eq_false (by omega), Bool.and_false]

/-- In front of a failure every piece that is found is complete. -/
theorem seekPiece_of_obstacle
    {searched : Nat}
    {found : Option (Piece × Bytes)}
    (hsized : reader.Sized)
    (hsearched : encoding.SearchedTo reader.unread searched)
    (hobstacle : reader.obstacle? = some error)
    (h : reader.seekPiece encoding searched = (.ok found, next)) :
    ∃ piece rest, found = some (piece, rest) ∧
      encoding.cutPiece? reader.ahead 0 = some (piece, (next.pass encoding piece rest).ahead) := by
  fun_induction seekPiece reader encoding searched with
  | case1 reader searched cut hcut =>
      cases h
      rw [hsearched.cutPiece?_eq] at hcut
      exact ⟨cut.1, cut.2, rfl, cutPiece?_append _ hcut⟩
  | case2 reader searched hcut failure after hfill =>
      cases h
  | case3 reader searched hcut after hfill ih =>
      obtain ⟨hsame, more, hunread⟩ := fill_true hsized hfill
      have hextend := hsearched.extend hcut more
      rw [← hunread] at hextend
      have hfound := ih hsame.sized hextend (hsame.obstacle.trans hobstacle) h
      rwa [hsame.ahead] at hfound
  | case4 reader searched hcut after hfill hempty =>
      rw [(fill_false hsized hfill).2.2.2] at hobstacle
      cases hobstacle
  | case5 reader searched hcut after hfill hne =>
      rw [(fill_false hsized hfill).2.2.2] at hobstacle
      cases hobstacle

/-- How a reader answers in front of a failure: with the first complete piece ahead, or with the
failure if there is none. -/
inductive AnswersBefore (reader : LineReader) (error : IoError) :
    Except LineError (Option (List Char)) × LineReader → Prop
  | failed
      {next : LineReader}
      (hnone : reader.completePiece? = none) :
      AnswersBefore reader error (.error (.io error), next)
  | line
      {piece : Piece}
      {next : LineReader}
      {text : List Char}
      (hpiece : reader.completePiece? = some (piece, next.ahead))
      (hpasses : reader.Passes piece next)
      (hdecode : reader.encodingAhead.decodePiece reader.count piece = .ok text) :
      AnswersBefore reader error (.ok (some text), next)
  | undecodable
      {piece : Piece}
      {next : LineReader}
      {fault : DecodeError}
      (hpiece : reader.completePiece? = some (piece, next.ahead))
      (hpasses : reader.Passes piece next)
      (hdecode : reader.encodingAhead.decodePiece reader.count piece = .error fault) :
      AnswersBefore reader error (.error (.decode fault), next)

/-- In front of a failure, a reader hands on the first complete piece ahead, and fails if there is
none. -/
theorem nextLine_of_obstacle
    (hsized : reader.Sized)
    (hobstacle : reader.obstacle? = some error) :
    reader.AnswersBefore error reader.nextLine := by
  cases hencoding : reader.requireEncoding with
  | mk told ready =>
      cases told with
      | error failure =>
          have hfailure := requireEncoding_error hsized hencoding
          rw [hobstacle] at hfailure
          cases hfailure
          simp only [nextLine, hencoding]
          apply AnswersBefore.failed
          rw [completePiece?, isUntold_of_requireEncoding_error hsized hencoding]
          rfl
      | ok encoding =>
          have hsettles := requireEncoding_ok hsized hencoding
          have htold := isUntold_of_requireEncoding_ok hsized hobstacle hencoding
          have hcomplete : reader.completePiece? = encoding.cutPiece? ready.ahead 0 := by
            rw [completePiece?, htold, hsettles.ahead_eq, hsettles.sniffed]
            rfl
          cases hseek : ready.seekPiece encoding 0 with
          | mk sought next =>
              cases sought with
              | error failure =>
                  obtain ⟨hpieces, hfailure⟩ :=
                    seekPiece_error hsettles.sized (searchedTo_zero _ _) hseek
                  rw [hsettles.obstacle, hobstacle] at hfailure
                  cases hfailure
                  simp only [nextLine, hencoding, hseek]
                  exact .failed (hcomplete.trans (cutPiece?_of_pieces_eq_lastPiece hpieces))
              | ok found =>
                  obtain ⟨piece, rest, rfl, hcut⟩ := seekPiece_of_obstacle hsettles.sized
                    (searchedTo_zero _ _) (hsettles.obstacle.trans hobstacle) hseek
                  obtain ⟨hpasses, hcount⟩ := passes_of_seekPiece hsettles hseek
                  simp only [nextLine, hencoding, hseek, hcount]
                  have hpiece := hcomplete.trans hcut
                  cases hdecode : encoding.decodePiece reader.count piece with
                  | ok text =>
                      rw [hsettles.sniffed] at hdecode
                      exact .line hpiece hpasses hdecode
                  | error fault =>
                      rw [hsettles.sniffed] at hdecode
                      exact .undecodable hpiece hpasses hdecode

end CompletePieces

end LineReader

namespace Detection

open Encoding

section StandIn

variable {seen : Nat}
variable {reader next : LineReader}
variable {state : Scan.State}
variable {error : IoError}

/-- The detector that stands where a reader stands, and was fed all the bytes ahead of it. -/
def standIn (seen : Nat) (reader : LineReader) (state : Scan.State) : Detector :=
  { buffer := reader.ahead
    encoding := reader.encoding
    state := state
    count := reader.count
    bytesSeen := seen }

/-- The stand-in that has told the encoding and passed over the byte order mark. -/
def standInBehindMark (seen : Nat) (reader : LineReader) (state : Scan.State) : Detector :=
  { buffer := reader.bodyAhead
    encoding := some reader.encodingAhead
    state := state
    count := reader.count
    bytesSeen := seen }

/-- The answer of a run that is undecided when its source fails with the given failure. -/
def outcomeBefore (error : IoError) : Option Mode → Except Failure Mode
  | some mode => .ok mode
  | none => .error (.io error)

/-- Before the encoding can be told, the stand-in waits as its reader does. -/
theorem advance_standIn_of_untold
    (h : reader.isUntold = true) :
    (standIn seen reader state).advance false = (standIn seen reader state, []) := by
  simp only [LineReader.isUntold, Bool.and_eq_true, Option.isNone_iff_eq_none,
    decide_eq_true_eq] at h
  exact Detector.advance_of_short h.1 h.2

/-- Once the encoding can be told, the stand-in looks at the bytes behind the mark. -/
theorem advance_standIn_of_told
    (h : reader.isUntold = false) :
    (standIn seen reader state).advance false =
      (standInBehindMark seen reader state).scan reader.encodingAhead false := by
  cases hsettled : reader.encoding with
  | some encoding =>
      have hkept : (standIn seen reader state).encoding = some encoding := hsettled
      rw [Detector.advance_of_settled hkept, standInBehindMark, LineReader.bodyAhead,
        LineReader.encodingAhead, standIn, hsettled]
      rfl
  | none =>
      have hunsettled : (standIn seen reader state).encoding = none := hsettled
      have hlong : sniffLength ≤ reader.ahead.length := by
        simpa [LineReader.isUntold, hsettled] using h
      rw [Detector.advance_of_sniffed hunsettled hlong, standInBehindMark, LineReader.bodyAhead,
        LineReader.encodingAhead, hsettled]
      rfl

theorem nextPiece?_standInBehindMark
    (h : reader.isUntold = false) :
    (standInBehindMark seen reader state).nextPiece? reader.encodingAhead false =
      reader.completePiece? := by
  rw [Detector.nextPiece?_of_going, LineReader.completePiece?, h]
  rfl

/-- Behind a piece, the stand-in is the one for the reader that has passed it. -/
theorem pass_standInBehindMark
    {piece : Piece}
    (hpasses : reader.Passes piece next) :
    (standInBehindMark seen reader state).pass reader.encodingAhead piece next.ahead =
      standIn seen next state := by
  simp only [Detector.pass, standInBehindMark, standIn, hpasses.settled, hpasses.count,
    Nat.zero_sub]

/-- Without a complete piece ahead the stand-in is undecided. -/
theorem advance_standIn_of_none
    (h : reader.completePiece? = none) :
    ((standIn seen reader state).advance false).1.decision = none := by
  cases huntold : reader.isUntold with
  | true =>
      rw [advance_standIn_of_untold huntold]
      rfl
  | false =>
      rw [← nextPiece?_standInBehindMark huntold] at h
      rw [advance_standIn_of_told huntold, Detector.scan_of_none h]
      rfl

/-- With a complete piece ahead the stand-in looks at it, and goes on from behind it. -/
theorem advance_standIn_of_some
    {piece : Piece}
    (hpiece : reader.completePiece? = some (piece, next.ahead))
    (hpasses : reader.Passes piece next) :
    (standIn seen reader state).advance false =
      match reader.encodingAhead.decodePiece reader.count piece with
      | .error fault => (standIn seen next state).giveUp fault
      | .ok line =>
          let looked := standIn seen next (state.classify line).2
          if (state.classify line).1.isFinal then
            looked.conclude (state.classify line).1
          else
            looked.advance false := by
  have htold : reader.isUntold = false := by
    rw [LineReader.completePiece?] at hpiece
    split at hpiece
    · cases hpiece
    · rename_i htold
      exact Bool.eq_false_iff.2 htold
  rw [← nextPiece?_standInBehindMark htold] at hpiece
  rw [advance_standIn_of_told htold, Detector.scan_of_some hpiece]
  cases hdecode : reader.encodingAhead.decodePiece reader.count piece with
  | error fault =>
      have hdecode' : reader.encodingAhead.decodePiece
          (standInBehindMark seen reader state).count piece = .error fault := hdecode
      simp only [hdecode', pass_standInBehindMark hpasses]
  | ok line =>
      have hdecode' : reader.encodingAhead.decodePiece
          (standInBehindMark seen reader state).count piece = .ok line := hdecode
      have hadvance : ∀ after, (standIn seen next after).advance false =
          (standIn seen next after).scan reader.encodingAhead false :=
        fun _ => Detector.advance_of_settled hpasses.settled
      simp only [hdecode', hadvance, pass_standInBehindMark hpasses]
      rfl

/-- In front of a failure, a run says what the detector says that stands in for its reader. -/
theorem scanLines_of_obstacle
    (events : List Event)
    (hsized : reader.Sized)
    (hobstacle : reader.obstacle? = some error) :
    (scanLines reader state events).outcome =
      outcomeBefore error ((standIn seen reader state).advance false).1.decision := by
  fun_induction scanLines reader state events with
  | case1 reader state events failure next hline =>
      have hanswer := LineReader.nextLine_of_obstacle hsized hobstacle
      rw [hline] at hanswer
      cases hanswer with
      | failed hnone =>
          rw [advance_standIn_of_none hnone]
          rfl
  | case2 reader state events fault next hline =>
      have hanswer := LineReader.nextLine_of_obstacle hsized hobstacle
      rw [hline] at hanswer
      cases hanswer with
      | undecodable hpiece hpasses hdecode =>
          rw [advance_standIn_of_some hpiece hpasses, hdecode]
          rfl
  | case3 reader state events next hline =>
      have hanswer := LineReader.nextLine_of_obstacle hsized hobstacle
      rw [hline] at hanswer
      cases hanswer
  | case4 reader state events next line hline verdict after hstep events' hfinal =>
      have hanswer := LineReader.nextLine_of_obstacle hsized hobstacle
      rw [hline] at hanswer
      cases hanswer with
      | line hpiece hpasses hdecode =>
          rw [advance_standIn_of_some hpiece hpasses, hdecode]
          simp only [hstep, hfinal, if_true]
          rfl
  | case5 reader state events next line hline verdict after hstep events' hfinal ih =>
      have hanswer := LineReader.nextLine_of_obstacle hsized hobstacle
      rw [hline] at hanswer
      cases hanswer with
      | line hpiece hpasses hdecode =>
          rw [advance_standIn_of_some hpiece hpasses, hdecode]
          simp only [hstep, hfinal]
          exact ih hpasses.sized (hpasses.obstacle.trans hobstacle)

/-- The stand-in for a reader at the beginning of a source was fed all that the source delivers. -/
theorem standIn_ofSource
    (source : Source)
    (capacity : Nat) :
    standIn (Source.upcoming source.script).length (.ofSource source capacity) .start =
      Detector.fresh.receive (Source.upcoming source.script) := by
  simp [standIn, Detector.receive, Detector.fresh, LineReader.ahead, LineReader.ofSource]

/-- **A failure shows exactly where the bytes before it do not decide.**  If a detector that is fed
these bytes comes to an answer, a run over the source gives that answer, and otherwise the run fails
as the source does.  This holds for every length of the buffer, for all calls by which the source
hands out the bytes, and for whatever it would deliver behind the failure. -/
theorem detect_of_failing
    {source : Source}
    {document : Bytes}
    {error : IoError}
    (hsource : source.FailsAfter document error)
    (capacity : Nat) :
    (detect source capacity).outcome =
        outcomeBefore error (Detector.fresh.feed document).1.decision ∧
      (∀ chunks : List Bytes, chunks.flatten = document →
        (detect source capacity).outcome =
          outcomeBefore error (Detector.fresh.feedAll chunks).1.decision) ∧
      (∀ other size, other.FailsAfter document error →
        (detect other size).outcome = (detect source capacity).outcome) ∧
      error.kind ≠ .interrupted := by
  have hrun : ∀ any size, Source.FailsAfter any document error →
      (detect any size).outcome =
        outcomeBefore error (Detector.fresh.feed document).1.decision := by
    intro any size hany
    obtain ⟨rfl, hobstacle⟩ := hany
    rw [Detector.feed_of_undecided rfl, ← standIn_ofSource any size]
    exact scanLines_of_obstacle [] (LineReader.sized_ofSource any size) hobstacle
  refine ⟨hrun source capacity hsource, ?_, ?_, Source.kind_of_obstacle? hsource.2⟩
  · intro chunks hchunks
    rw [hrun source capacity hsource, Detector.Reachable.fresh.feedAll_eq_feed_flatten chunks,
      hchunks]
  · intro other size hother
    rw [hrun other size hother, hrun source capacity hsource]

theorem detect_of_failing_behind_doctype :
    (detect ⟨[.bytes [0x0D, 0x44, 0x4F], .failure ⟨.interrupted, "signal"⟩,
        .bytes [0x43, 0x54, 0x59, 0x50, 0x45, 0x0A, 0x3C], .failure ⟨.connectionReset, "reset"⟩,
        .bytes [0x72]], []⟩ 0).outcome = .ok .dtd ∧
      (detect ⟨[.bytes [0x0D, 0x44, 0x4F], .failure ⟨.connectionReset, "reset"⟩], []⟩ 7).outcome =
        .error (.io ⟨.connectionReset, "reset"⟩) := by
  have hfirst : Source.FailsAfter ⟨[.bytes [0x0D, 0x44, 0x4F], .failure ⟨.interrupted, "signal"⟩,
      .bytes [0x43, 0x54, 0x59, 0x50, 0x45, 0x0A, 0x3C], .failure ⟨.connectionReset, "reset"⟩,
      .bytes [0x72]], []⟩ [0x0D, 0x44, 0x4F, 0x43, 0x54, 0x59, 0x50, 0x45, 0x0A, 0x3C]
      ⟨.connectionReset, "reset"⟩ := by
    decide
  have hsecond : Source.FailsAfter
      ⟨[.bytes [0x0D, 0x44, 0x4F], .failure ⟨.connectionReset, "reset"⟩], []⟩ [0x0D, 0x44, 0x4F]
      ⟨.connectionReset, "reset"⟩ := by
    decide
  have hdecided : (Detector.fresh.feed
      [0x0D, 0x44, 0x4F, 0x43, 0x54, 0x59, 0x50, 0x45, 0x0A, 0x3C]).1.decision = some .dtd := by
    decide +kernel
  have hundecided : (Detector.fresh.feed [0x0D, 0x44, 0x4F]).1.decision = none := by
    decide +kernel
  rw [(detect_of_failing hfirst 0).1, (detect_of_failing hsecond 7).1, hdecided, hundecided]
  exact ⟨rfl, rfl⟩

end StandIn

end Detection

end XmlPreamble
