import XmlPreamble.Proofs.FeedingInParts
import XmlPreamble.Proofs.ReadingOn

/-!
# Numbers of lines

A document is cut at every line feed and every carriage return, but a carriage return with a line
feed behind it ends one line only.  The numbering carries a flag from piece to piece for this.  Here
the lines are counted in the document itself: the number of a piece is one more than the number of
line ends, pairs counted once, that lie before it.  Readers and detectors number their lines so, in
whatever parts the document reaches them.

Main statements:

- `Encoding.numbers_pieces`: the numbering of the pieces counts the line ends before each of them;
- `LineReader.numbered_calls`: a reader numbers the lines that it hands on like the pieces;
- `Detector.feed_piecesArrived` and `Transcript.getElem?_ofPieces`: so does a detector, and so does
  the look at the whole document;
- `line_numbers_count_line_ends`: the numbers that readers and detectors report.
-/

namespace XmlPreamble

namespace LineCount

/-- The numbers of pieces in a row. -/
def numbers : LineCount → List Piece → List Nat
  | _, [] => []
  | count, piece :: rest => (count.advance piece).number :: (count.advance piece).numbers rest

/-- The numbers of pieces do not hang on what comes behind them. -/
theorem numbers_prefix
    {pieces others : List Piece}
    (count : LineCount)
    (h : pieces <+: others) :
    count.numbers pieces <+: count.numbers others := by
  induction pieces generalizing count others with
  | nil => exact List.nil_prefix
  | cons piece pieces ih =>
      obtain ⟨rest, rfl⟩ := h
      rw [List.cons_append, numbers, numbers, List.cons_prefix_cons]
      exact ⟨rfl, ih _ (List.prefix_append pieces rest)⟩

end LineCount

namespace Encoding

section LineEnds

/-- The code units of bytes.  Bytes that are left over behind the last whole unit are none. -/
def codeUnits : Encoding → Bytes → List Nat
  | utf8, byte :: rest => byte.toNat :: codeUnits utf8 rest
  | utf16 order, first :: second :: rest =>
      (order.unit first second).toNat :: codeUnits (utf16 order) rest
  | _, _ => []

theorem codeUnits_utf8 (bytes : Bytes) : utf8.codeUnits bytes = bytes.map UInt8.toNat := by
  induction bytes with
  | nil => rfl
  | cons byte bytes ih => rw [codeUnits, ih, List.map_cons]

/-- The places behind the line ends among code units of the given width, counted from `place`.  A
carriage return with a line feed directly behind it is one line end. -/
def lineEndsFrom (width place : Nat) : List Nat → List Nat
  | [] => []
  | 0x0D :: 0x0A :: rest => (place + 2 * width) :: lineEndsFrom width (place + 2 * width) rest
  | unit :: rest =>
      if unit = 0x0D ∨ unit = 0x0A then
        (place + width) :: lineEndsFrom width (place + width) rest
      else
        lineEndsFrom width (place + width) rest

/-- The places behind the line ends of bytes. -/
def lineEnds (encoding : Encoding) (bytes : Bytes) : List Nat :=
  lineEndsFrom encoding.unitLength 0 (encoding.codeUnits bytes)

/-- The number of the line to which a place in the bytes belongs, counted from one: the line ends
that lie before it, and one more. -/
def lineAt (encoding : Encoding) (bytes : Bytes) (place : Nat) : Nat :=
  1 + (encoding.lineEnds bytes).countP (· ≤ place)

/-- The places at which pieces in a row begin, counted from `place`. -/
def startsFrom (encoding : Encoding) (place : Nat) : List Piece → List Nat
  | [] => []
  | piece :: rest => place :: encoding.startsFrom (place + piece.size encoding) rest

theorem lt_of_mem_lineEndsFrom
    {width place found : Nat}
    {units : List Nat}
    (hwidth : 0 < width)
    (h : found ∈ lineEndsFrom width place units) :
    place < found := by
  fun_induction lineEndsFrom width place units with
  | case1 => cases h
  | case2 place rest ih =>
      rcases List.mem_cons.1 h with rfl | h
      · omega
      · have := ih h
        omega
  | case3 place unit rest hpair hend ih =>
      rcases List.mem_cons.1 h with rfl | h
      · omega
      · have := ih h
        omega
  | case4 place unit rest hpair hend ih =>
      have := ih h
      omega

/-- No line end lies before the place from which they are counted. -/
theorem countP_lineEndsFrom_of_le
    {width place start : Nat}
    (units : List Nat)
    (hwidth : 0 < width)
    (hle : start ≤ place) :
    (lineEndsFrom width place units).countP (· ≤ start) = 0 := by
  rw [List.countP_eq_zero]
  intro found hfound
  have := lt_of_mem_lineEndsFrom hwidth hfound
  simp only [decide_eq_true_eq]
  omega

theorem le_of_mem_startsFrom
    {encoding : Encoding}
    {place start : Nat}
    {pieces : List Piece}
    (h : start ∈ encoding.startsFrom place pieces) :
    place ≤ start := by
  induction pieces generalizing place with
  | nil => cases h
  | cons piece pieces ih =>
      rcases List.mem_cons.1 h with rfl | h
      · exact Nat.le_refl _
      · have := ih h
        omega

end LineEnds

section Units

variable {encoding : Encoding}
variable {bytes : Bytes}

/-- Without a whole unit there is one piece, or none. -/
theorem piecesFrom_of_codeUnits_nil
    (body : Bytes)
    (h : encoding.codeUnits bytes = []) :
    encoding.piecesFrom body bytes = lastPiece (body.reverse ++ bytes) := by
  unfold piecesFrom
  split
  · cases h
  · cases h
  · rfl

/-- The first unit ends a piece, or it belongs to the first one. -/
theorem exists_of_codeUnits_cons
    {code : Nat}
    {units : List Nat}
    (h : encoding.codeUnits bytes = code :: units) :
    ∃ unit rest, unit.length = encoding.unitLength ∧ encoding.codeUnits rest = units ∧
      ∀ body, encoding.piecesFrom body bytes =
        match Terminator.ofCode? code with
        | some terminator => ⟨body.reverse, some terminator⟩ :: encoding.pieces rest
        | none => encoding.piecesFrom (unit ++ body) rest := by
  cases encoding with
  | utf8 =>
      cases bytes with
      | nil => cases h
      | cons byte rest =>
          cases h
          exact ⟨[byte], rest, rfl, rfl, fun _ => rfl⟩
  | utf16 order =>
      rcases bytes with _ | ⟨first, _ | ⟨second, rest⟩⟩
      · cases h
      · cases h
      · cases h
        exact ⟨[second, first], rest, rfl, rfl, fun _ => rfl⟩

end Units

section Numbering

variable {encoding : Encoding}
variable {count : LineCount}
variable {pieces : List Piece}
variable {ends : List Nat}
variable {start found : Nat}

/-- The numbers of pieces of which the first begins at `start` count the given line ends. -/
def NumberedBy (encoding : Encoding) (count : LineCount) (start : Nat) (pieces : List Piece)
    (ends : List Nat) : Prop :=
  count.numbers pieces =
    (encoding.startsFrom start pieces).map fun place =>
      count.number + 1 + ends.countP (· ≤ place)

/-- Behind a line end there is one more of them to be counted. -/
theorem map_startsFrom_of_lineEnd
    (number : Nat)
    (ends : List Nat)
    (pieces : List Piece) :
    (encoding.startsFrom found pieces).map
        (fun place => number + (found :: ends).countP (· ≤ place)) =
      (encoding.startsFrom found pieces).map
        (fun place => number + 1 + ends.countP (· ≤ place)) := by
  apply List.map_congr_left
  intro place hplace
  have hbehind := le_of_mem_startsFrom hplace
  rw [List.countP_cons_of_pos (by simpa using hbehind)]
  omega

/-- A piece that does not lie within a pair opens a new line. -/
theorem number_advance
    {piece : Piece}
    (h : count.afterCarriageReturn = true → piece.body = [] →
      piece.terminator ≠ some .lineFeed) :
    (count.advance piece).number = count.number + 1 := by
  rw [LineCount.advance, if_neg]
  rw [LineCount.betweenPair, Bool.and_eq_true, Bool.and_eq_true, List.isEmpty_iff, beq_iff_eq]
  rintro ⟨⟨hafter, hempty⟩, hterminator⟩
  exact h hafter hempty hterminator

/-- A line end behind a new line. -/
theorem NumberedBy.lineEnd
    {piece : Piece}
    (hnumber : (count.advance piece).number = count.number + 1)
    (hfound : start + piece.size encoding = found)
    (hends : ∀ place ≤ found, ends.countP (· ≤ place) = 0)
    (hpos : start < found)
    (h : encoding.NumberedBy (count.advance piece) found pieces ends) :
    encoding.NumberedBy count start (piece :: pieces) (found :: ends) := by
  rw [NumberedBy, hnumber] at h
  rw [NumberedBy, LineCount.numbers, startsFrom, hfound, List.map_cons, map_startsFrom_of_lineEnd,
    hnumber, h, List.countP_cons_of_neg (by simpa using hpos), hends start (Nat.le_of_lt hpos)]

/-- A carriage return and a line feed behind a new line are one line end.  The piece between them
has the number of the one before. -/
theorem NumberedBy.pair
    {body : Bytes}
    (hfound : start + body.length + 2 * encoding.unitLength = found)
    (hends : ∀ place ≤ found, ends.countP (· ≤ place) = 0)
    (h : encoding.NumberedBy ⟨count.number + 1, false⟩ found pieces ends) :
    encoding.NumberedBy count start
      (⟨body, some .carriageReturn⟩ :: ⟨[], some .lineFeed⟩ :: pieces) (found :: ends) := by
  have hwidth := encoding.unitLength_pos
  have hnumber : (count.advance ⟨body, some .carriageReturn⟩).number = count.number + 1 :=
    number_advance fun _ _ => by simp
  have hfirst : count.advance ⟨body, some .carriageReturn⟩ = ⟨count.number + 1, true⟩ := by
    rw [← hnumber]
    rfl
  have hsecond : LineCount.advance ⟨count.number + 1, true⟩ ⟨[], some .lineFeed⟩ =
      ⟨count.number + 1, false⟩ := rfl
  have hsize : Piece.size encoding ⟨body, some .carriageReturn⟩ =
      body.length + encoding.unitLength := rfl
  have hsize' : Piece.size encoding ⟨[], some .lineFeed⟩ = encoding.unitLength := by
    simp [Piece.size]
  have hbefore : ∀ place < found, (found :: ends).countP (· ≤ place) = 0 := by
    intro place hlt
    rw [List.countP_cons_of_neg (by simpa using hlt), hends place (Nat.le_of_lt hlt)]
  have hplace : start + (body.length + encoding.unitLength) + encoding.unitLength = found := by
    omega
  rw [NumberedBy] at h
  simp only [NumberedBy, LineCount.numbers, startsFrom, hfirst, hsecond, hsize, hsize', hplace,
    List.map_cons]
  rw [map_startsFrom_of_lineEnd, hbefore start (by omega), hbefore _ (by omega), h]

/-- The numbering counts the line ends before each piece.  It may have come from a carriage return,
but not into the middle of a pair. -/
theorem numberedBy_piecesFrom
    {body bytes : Bytes}
    {place : Nat}
    {units : List Nat}
    (hunits : encoding.codeUnits bytes = units)
    (hstart : start + body.length = place)
    (hpair : count.afterCarriageReturn = true → body = [] → units.head? ≠ some 0x0A) :
    encoding.NumberedBy count start (encoding.piecesFrom body bytes)
      (lineEndsFrom encoding.unitLength place units) := by
  have hwidth := encoding.unitLength_pos
  fun_induction lineEndsFrom encoding.unitLength place units
    generalizing body bytes count start with
  | case1 place =>
      rw [piecesFrom_of_codeUnits_nil body hunits, lastPiece]
      split
      · rfl
      · have hnumber : (count.advance (.unterminated (body.reverse ++ bytes))).number =
            count.number + 1 := number_advance fun _ _ => by simp [Piece.unterminated]
        simp [NumberedBy, LineCount.numbers, startsFrom, hnumber]
  | case2 place rest ih =>
      obtain ⟨_, behind, -, hbehind, hfirst⟩ := exists_of_codeUnits_cons hunits
      obtain ⟨_, others, -, hothers, hsecond⟩ := exists_of_codeUnits_cons hbehind
      have hcut : encoding.piecesFrom body bytes =
          ⟨body.reverse, some .carriageReturn⟩ :: ⟨[], some .lineFeed⟩ :: encoding.pieces others :=
        (hfirst body).trans (congrArg _ (hsecond []))
      rw [hcut]
      have hplace : ∀ place : Nat, place + ([] : Bytes).length = place := Nat.add_zero
      refine .pair ?_ ?_ (ih hothers (hplace _) fun hafter => absurd hafter Bool.false_ne_true)
      · rw [List.length_reverse, hstart]
      · exact fun _ hle => countP_lineEndsFrom_of_le rest hwidth hle
  | case3 place unit rest hno hend ih =>
      obtain ⟨_, behind, -, hbehind, hfirst⟩ := exists_of_codeUnits_cons hunits
      obtain ⟨terminator, hterminator⟩ :
          ∃ terminator, Terminator.ofCode? unit = some terminator := by
        rcases hend with rfl | rfl
        · exact ⟨_, rfl⟩
        · exact ⟨_, rfl⟩
      have hcut : encoding.piecesFrom body bytes =
          ⟨body.reverse, some terminator⟩ :: encoding.pieces behind := by
        rw [hfirst body, hterminator]
      have hcode := ofCode?_eq_some hterminator
      rw [hcut]
      have hplace : ∀ place : Nat, place + ([] : Bytes).length = place := Nat.add_zero
      refine .lineEnd (number_advance ?_) ?_ ?_ ?_ (ih hbehind (hplace _) ?_)
      · rintro hafter hempty ⟨⟩
        rcases hcode with ⟨-, rfl⟩ | ⟨hreturn, -⟩
        · exact hpair hafter (List.reverse_eq_nil_iff.1 hempty) rfl
        · cases hreturn
      · rw [Piece.size, List.length_reverse, Option.isSome_some, if_pos rfl]
        omega
      · exact fun _ hle => countP_lineEndsFrom_of_le rest hwidth hle
      · omega
      · -- A line feed behind this piece would have been one of a pair.
        intro hafter _ hhead
        obtain ⟨tail, rfl⟩ := List.head?_eq_some_iff.1 hhead
        rcases hcode with ⟨rfl, -⟩ | ⟨-, hunit⟩
        · cases hafter
        · exact hno tail hunit rfl
  | case4 place unit rest hno hend ih =>
      obtain ⟨first, behind, hlength, hbehind, hfirst⟩ := exists_of_codeUnits_cons hunits
      have hnone : Terminator.ofCode? unit = none := by
        rw [not_or] at hend
        exact ofCode?_eq_none_iff.2 ⟨hend.2, hend.1⟩
      have hcut : encoding.piecesFrom body bytes = encoding.piecesFrom (first ++ body) behind := by
        rw [hfirst body, hnone]
      rw [hcut]
      refine ih hbehind ?_ ?_
      · rw [List.length_append, ← hstart, hlength]
        omega
      · intro _ hnil
        have := congrArg List.length hnil
        rw [List.length_append, List.length_nil] at this
        omega

/-- The number of a piece is that of the line to which its place belongs. -/
theorem numbers_pieces (encoding : Encoding) (bytes : Bytes) :
    ({} : LineCount).numbers (encoding.pieces bytes) =
      (encoding.startsFrom 0 (encoding.pieces bytes)).map (encoding.lineAt bytes) := by
  have hnumbered : encoding.NumberedBy {} 0 (encoding.pieces bytes) (encoding.lineEnds bytes) :=
    numberedBy_piecesFrom rfl rfl fun hafter => absurd hafter Bool.false_ne_true
  rw [NumberedBy] at hnumbered
  rw [hnumbered]
  apply List.map_congr_left
  intro place _
  rw [lineAt, Nat.zero_add]

end Numbering

section Errors

theorem line_of_decodePiece_error
    {encoding : Encoding}
    {count : LineCount}
    {piece : Piece}
    {error : DecodeError}
    (h : encoding.decodePiece count piece = .error error) :
    error.line = (count.advance piece).number := by
  simp only [decodePiece, decodeLine_eq] at h
  split at h
  · cases h
  · cases h
    rfl

end Errors

section CompletePieces

variable {encoding : Encoding}

/-- A search stops at a terminator. -/
theorem isSome_terminator?_of_findLineEndFrom
    {index found : Nat}
    {bytes : Bytes}
    (h : encoding.findLineEndFrom index bytes = some found) :
    (encoding.terminator? (bytes.drop (found - index))).isSome = true := by
  fun_induction findLineEndFrom encoding index bytes with
  | case1 index byte rest hend =>
      cases h
      rw [Nat.sub_self]
      exact hend
  | case2 index byte rest hend ih =>
      have hbounds := (findLineEndFrom_bounds h).1
      rw [show found - index = found - (index + 1) + 1 by omega]
      exact ih h
  | case3 order index first second rest hend =>
      cases h
      rw [Nat.sub_self]
      exact hend
  | case4 order index first second rest hend ih =>
      have hbounds := (findLineEndFrom_bounds h).1
      rw [show found - index = found - (index + 2) + 2 by omega]
      exact ih h
  | case5 => cases h

/-- A piece that is cut off is one that a terminator ends. -/
theorem isSome_terminator_of_cutPiece?
    {bytes rest : Bytes}
    {searched : Nat}
    {piece : Piece}
    (h : encoding.cutPiece? bytes searched = some (piece, rest)) :
    piece.terminator.isSome = true := by
  simp only [cutPiece?, Option.map_eq_some_iff] at h
  obtain ⟨found, hfound, h⟩ := h
  have hbounds := (findLineEnd_bounds hfound).1
  have hterminator := isSome_terminator?_of_findLineEndFrom hfound
  rw [List.drop_drop, Nat.add_sub_cancel' hbounds] at hterminator
  cases h
  exact hterminator

/-- The pieces of bytes that terminators end. -/
def completePieces (encoding : Encoding) (bytes : Bytes) : List Piece :=
  (encoding.pieces bytes).filter fun piece => piece.terminator.isSome

theorem completePieces_of_cutPiece?_none
    {bytes : Bytes}
    (h : encoding.cutPiece? bytes 0 = none) :
    encoding.completePieces bytes = [] := by
  rw [completePieces, pieces_of_cutPiece?_none h, lastPiece]
  split <;> rfl

theorem completePieces_of_cutPiece?_some
    {bytes rest : Bytes}
    {piece : Piece}
    (h : encoding.cutPiece? bytes 0 = some (piece, rest)) :
    encoding.completePieces bytes = piece :: encoding.completePieces rest := by
  rw [completePieces, pieces_eq_cons h, List.filter_cons, if_pos (isSome_terminator_of_cutPiece? h)]
  rfl

/-- The complete pieces of what has arrived are the first ones of the whole. -/
theorem completePieces_prefix
    (bytes more : Bytes) :
    encoding.completePieces bytes <+: encoding.pieces (bytes ++ more) := by
  cases hcut : encoding.cutPiece? bytes 0 with
  | none =>
      rw [completePieces_of_cutPiece?_none hcut]
      exact List.nil_prefix
  | some found =>
      have hshorter := cutPiece?_rest_length_lt hcut
      rw [completePieces_of_cutPiece?_some hcut, pieces_eq_cons (cutPiece?_append more hcut),
        List.cons_prefix_cons]
      exact ⟨rfl, completePieces_prefix found.2 more⟩
termination_by bytes.length

end CompletePieces

end Encoding

namespace LineCall

/-- What a call hands on of the document, with the number that the reader reports behind it. -/
def numbered? (call : LineCall) : Option (Except DecodeError (List Char) × Nat) :=
  call.reading?.map fun reading => (reading, call.after.count.number)

end LineCall

namespace LineReader

variable {reader : LineReader}

/-- A call that hands on a piece reports the number of this piece. -/
theorem numbers_of_passes
    {piece : Piece}
    {next : LineReader}
    (hpasses : reader.mended.Passes piece next.mended) :
    reader.count.numbers reader.mended.piecesAhead =
      next.count.number :: next.count.numbers next.mended.piecesAhead := by
  have hcount : next.count = reader.count.advance piece := hpasses.count
  rw [hpasses.pieces, LineCount.numbers, hcount]

/-- A reader numbers the lines that it hands on like the pieces ahead. -/
theorem numbered_calls
    (hsized : reader.Sized)
    {made : Nat}
    (hmade : reader.mended.piecesAhead.length + reader.failuresAhead.length ≤ made) :
    (reader.calls made).filterMap LineCall.numbered? =
      (reader.mended.encodingAhead.readings reader.count reader.mended.piecesAhead).zip
        (reader.count.numbers reader.mended.piecesAhead) := by
  induction made generalizing reader with
  | zero =>
      have hpieces : reader.mended.piecesAhead = [] := List.eq_nil_of_length_eq_zero (by omega)
      rw [hpieces]
      rfl
  | succ made ih =>
      have hanswers := nextLine_answers hsized
      have hatEnd := fun hpieces hfailures => calls_atEnd hsized hpieces hfailures (made + 1)
      rw [calls] at hatEnd ⊢
      generalize reader.nextLine = outcome at hanswers hatEnd
      cases hanswers with
      | failed hstays hfailures =>
          rw [hfailures, List.length_cons, ← hstays.piecesAhead] at hmade
          have hnumbers := ih hstays.sized (by omega)
          rw [hstays.encodingAhead, hstays.piecesAhead, hstays.count] at hnumbers
          exact hnumbers
      | line hpasses hfailures hdecode =>
          rw [hpasses.pieces, List.length_cons, ← hfailures] at hmade
          rw [readings_of_passes hpasses, hdecode, numbers_of_passes hpasses, List.zip_cons_cons,
            ← ih (sized_of_passes hpasses) (by omega)]
          rfl
      | undecodable hpasses hfailures hdecode =>
          rw [hpasses.pieces, List.length_cons, ← hfailures] at hmade
          rw [readings_of_passes hpasses, hdecode, numbers_of_passes hpasses, List.zip_cons_cons,
            ← ih (sized_of_passes hpasses) (by omega)]
          rfl
      | ended hstays hpieces hfailures hnext =>
          rw [hpieces, LineCount.numbers, List.zip_nil_right, List.filterMap_eq_nil_iff]
          intro call hmem
          rw [LineCall.numbered?, LineCall.reading?, hatEnd hpieces hfailures call hmem]
          rfl

/-- The error of a piece that is not text carries the number that the reader reports. -/
theorem line_of_undecodable_call
    (hsized : reader.Sized)
    {made : Nat}
    {call : LineCall}
    {error : DecodeError}
    (hmem : call ∈ reader.calls made)
    (herror : call.answer = .error (.decode error)) :
    error.line = call.after.count.number := by
  have hanswers := answers_of_mem_calls hsized hmem
  rcases call with ⟨before, answer, after⟩
  cases hanswers with
  | failed => cases herror
  | line => cases herror
  | ended => cases herror
  | undecodable hpasses _ hdecode =>
      cases herror
      have hcount : after.count = before.count.advance _ := hpasses.count
      rw [Encoding.line_of_decodePiece_error hdecode, hcount]

end LineReader

namespace Detection

/-- The number of the line of which an event tells. -/
def Event.lineNumber : Event → Nat
  | classified line _ _ => line
  | undecodable error => error.line
  | concluded _ _ lines _ => lines

/-- The number of the last line that was looked at. -/
def Ending.lineNumber : Ending → Nat
  | settled _ lines => lines
  | undecodable error => error.line

/-- Whether the look has ended with a piece that decides. -/
def Ending.isFinal : Ending → Bool
  | settled verdict _ => verdict.isFinal
  | undecodable _ => true

theorem Ending.lineNumber_event
    (ending : Ending)
    (extent : Extent) :
    (ending.event extent).lineNumber = ending.lineNumber := by
  cases ending <;> rfl

namespace Transcript

/-- The number of pieces that were looked at, one that is not text included. -/
def pieceCount (transcript : Transcript) : Nat :=
  transcript.looked.length +
    match transcript.ending with
    | .settled _ _ => 0
    | .undecodable _ => 1

theorem pieceCount_after
    (transcript : Transcript)
    (event : Event) :
    (transcript.after event).pieceCount = transcript.pieceCount + 1 := by
  simp only [pieceCount, after, List.length_cons]
  omega

/-- The look at a document ends with the number of the last piece that was looked at. -/
theorem getElem?_ofPieces
    (encoding : Encoding)
    (count : LineCount)
    (state : Scan.State)
    (pieces : List Piece) :
    let transcript := ofPieces encoding count state pieces
    (count.number :: count.numbers pieces)[transcript.pieceCount]? =
      some transcript.ending.lineNumber := by
  fun_induction ofPieces encoding count state pieces with
  | case1 => rfl
  | case2 count state piece rest error hline =>
      exact congrArg some (Encoding.line_of_decodePiece_error hline).symm
  | case3 => rfl
  | case4 count state piece rest line hline verdict after hstep count' event hfinal ih =>
      simp only [pieceCount_after]
      exact ih

end Transcript

namespace Detector

open Encoding

section Scanning

variable {detector : Detector}
variable {encoding : Encoding}

/-- The events of a scan tell of the line where the detector stands. -/
theorem lineNumber_of_scan
    (detector : Detector)
    (encoding : Encoding)
    (atEnd : Bool) :
    ∀ event ∈ (detector.scan encoding atEnd).2,
      event.lineNumber = (detector.scan encoding atEnd).1.count.number := by
  fun_induction scan detector encoding atEnd with
  | case1 =>
      intro event hmem
      rw [List.mem_singleton.1 hmem]
      rfl
  | case2 =>
      intro event hmem
      cases hmem
  | case3 detector piece rest hpiece passed error hline =>
      intro event hmem
      rw [List.mem_singleton.1 hmem]
      exact line_of_decodePiece_error hline
  | case4 =>
      intro event hmem
      rw [List.mem_singleton.1 hmem]
      rfl
  | case5 detector piece rest hpiece passed line hline verdict state hstep looked hfinal ih =>
      exact ih

/-- While more bytes may come, the next piece is the first complete one. -/
theorem completePieces_of_nextPiece?
    {piece : Piece}
    {rest : Bytes}
    (hopen : detector.Open)
    (hsettled : detector.encoding = some encoding)
    (h : detector.nextPiece? encoding false = some (piece, rest)) :
    encoding.completePieces detector.buffer = piece :: encoding.completePieces rest := by
  rw [nextPiece?_of_going, (hopen.searchedTo encoding hsettled).cutPiece?_eq] at h
  exact completePieces_of_cutPiece?_some h

/-- A scan looks at the complete pieces in turn, up to the deciding one.  It stands where this look
ends, and has decided just if there is a deciding one. -/
theorem scan_completePieces
    (hopen : detector.Open)
    (hsettled : detector.encoding = some encoding) :
    let pieces := encoding.completePieces detector.buffer
    let transcript := Transcript.ofPieces encoding detector.count detector.state pieces
    let scanned := (detector.scan encoding false).1
    (detector.count.number :: detector.count.numbers pieces)[transcript.pieceCount]? =
        some scanned.count.number ∧
      scanned.isDecided = transcript.ending.isFinal := by
  fun_induction scan detector encoding false with
  | case1 detector hnone hend => cases hend
  | case2 detector hnone hgoing =>
      have hcut := (cutPiece?_of_nextPiece?_none hnone).1
      rw [(hopen.searchedTo _ hsettled).cutPiece?_eq] at hcut
      rw [completePieces_of_cutPiece?_none hcut]
      exact ⟨rfl, isDecided_of_undecided hopen.undecided⟩
  | case3 detector piece rest hpiece passed error hline =>
      rw [completePieces_of_nextPiece? hopen hsettled hpiece]
      simp only [Transcript.ofPieces, hline]
      exact ⟨rfl, rfl⟩
  | case4 detector piece rest hpiece passed line hline verdict state hstep looked hfinal =>
      rw [completePieces_of_nextPiece? hopen hsettled hpiece]
      simp only [Transcript.ofPieces, hline, hstep, hfinal, if_true, Ending.isFinal]
      exact ⟨rfl, rfl⟩
  | case5 detector piece rest hpiece passed line hline verdict state hstep looked hfinal ih =>
      rw [completePieces_of_nextPiece? hopen hsettled hpiece]
      simp only [Transcript.ofPieces, hline, hstep, hfinal, Bool.false_eq_true, if_false,
        Transcript.pieceCount_after]
      exact ih (hopen.passed hpiece state) hsettled

end Scanning

section Feeding

variable {detector : Detector}

/-- The events of a look at what is held back tell of the line where the detector stands. -/
theorem lineNumber_of_advance
    (detector : Detector)
    (atEnd : Bool) :
    ∀ event ∈ (detector.advance atEnd).2,
      event.lineNumber = (detector.advance atEnd).1.count.number := by
  rw [advance]
  split
  · exact lineNumber_of_scan _ _ _
  · split
    · exact lineNumber_of_scan _ _ _
    · exact List.forall_mem_nil _

theorem lineNumber_of_feed
    (detector : Detector)
    (chunk : Bytes) :
    ∀ event ∈ (detector.feed chunk).2,
      event.lineNumber = (detector.feed chunk).1.count.number := by
  rw [feed]
  split
  · exact List.forall_mem_nil _
  · exact lineNumber_of_advance _ _

theorem lineNumber_of_finish (detector : Detector) :
    ∀ event ∈ detector.finish.2, event.lineNumber = detector.finish.1.count.number := by
  cases hdecision : detector.decision with
  | some mode =>
      rw [finish_of_decided hdecision]
      exact List.forall_mem_nil _
  | none =>
      rw [finish_of_undecided (isDecided_of_undecided hdecision)]
      exact lineNumber_of_advance _ _

/-- The events of chunks in turn tell of the line where the detector stands. -/
theorem lineNumber_of_feedAll
    (hopen : detector.Open)
    (chunks : List Bytes) :
    ∀ event ∈ (detector.feedAll chunks).2,
      event.lineNumber = (detector.feedAll chunks).1.count.number := by
  induction chunks generalizing detector with
  | nil => exact List.forall_mem_nil _
  | cons chunk chunks ih =>
      simp only [feedAll]
      rcases feed_outlook hopen chunk with ⟨ending, hended, -⟩ | ⟨hopen', hquiet, -⟩
      · rw [feedAll_of_decided hended.isDecided, List.append_nil]
        exact lineNumber_of_feed detector chunk
      · rw [hquiet, List.nil_append]
        exact ih hopen'

theorem lineNumber_of_feedThenFinish (chunks : List Bytes) :
    ∀ event ∈ (feedThenFinish chunks).2,
      event.lineNumber = (feedThenFinish chunks).1.count.number := by
  rw [feedThenFinish]
  rcases feedAll_outlook open_fresh chunks with ⟨ending, hended, -⟩ | ⟨-, hquiet, -⟩
  · rw [finish_of_decided hended.decision, List.append_nil]
    exact lineNumber_of_feedAll open_fresh chunks
  · rw [hquiet, List.nil_append]
    exact lineNumber_of_finish _

/-- A detector stands in the end at the last line that was looked at. -/
theorem number_feedThenFinish (chunks : List Bytes) :
    (feedThenFinish chunks).1.count.number = (transcript chunks.flatten).ending.lineNumber := by
  have hevents := (feedThenFinish_of_flatten (rfl : chunks.flatten = chunks.flatten)).events
  have hnumber := lineNumber_of_feedThenFinish chunks
  rw [hevents, List.forall_mem_singleton, Ending.lineNumber_event] at hnumber
  exact hnumber.symm

end Feeding

section Arriving

/-- The pieces that can be looked at when the given bytes have arrived: those that terminators end,
if the encoding can be told. -/
def piecesArrived (bytes : Bytes) : List Piece :=
  if bytes.length < sniffLength then []
  else (sniff bytes).completePieces (bytes.drop ((sniff bytes).signatureLength bytes))

theorem piecesArrived_prefix
    (bytes more : Bytes) :
    piecesArrived bytes <+: documentPieces (sniff (bytes ++ more)) (bytes ++ more) := by
  rw [piecesArrived]
  split
  · exact List.nil_prefix
  · rename_i hlong
    rw [Nat.not_lt] at hlong
    rw [documentPieces_append _ more hlong, sniff_append more hlong]
    exact completePieces_prefix _ more

/-- What is said of a document when the given bytes of it have arrived. -/
def transcriptSoFar (bytes : Bytes) : Transcript :=
  .ofPieces (sniff bytes) {} .start (piecesArrived bytes)

/-- A detector looks at the pieces that have arrived in turn, up to the deciding one.  It stands
where this look ends, and has decided just if there is a deciding one. -/
theorem feed_piecesArrived (bytes : Bytes) :
    let fed := (fresh.feed bytes).1
    (0 :: ({} : LineCount).numbers (piecesArrived bytes))[(transcriptSoFar bytes).pieceCount]? =
        some fed.count.number ∧
      fed.isDecided = (transcriptSoFar bytes).ending.isFinal := by
  have hbuffer : (fresh.receive bytes).buffer = bytes := List.nil_append bytes
  rw [feed_of_undecided rfl, transcriptSoFar, piecesArrived]
  split
  · rename_i hshort
    rw [advance_of_short rfl (by rwa [hbuffer])]
    exact ⟨rfl, rfl⟩
  · rename_i hlong
    rw [Nat.not_lt] at hlong
    rw [advance_of_sniffed rfl (by rwa [hbuffer]), hbuffer]
    have hopen := (open_fresh.receive bytes).settleEncoding rfl
    exact scan_completePieces hopen rfl

end Arriving

end Detector

section Documents

/-- What stands at a place of a list stands there in every list that begins with it. -/
theorem getElem?_of_numbers_prefix
    {pieces others : List Piece}
    {index number : Nat}
    (hfront : pieces <+: others)
    (h : (0 :: ({} : LineCount).numbers pieces)[index]? = some number) :
    (0 :: ({} : LineCount).numbers others)[index]? = some number := by
  obtain ⟨rest, hrest⟩ := LineCount.numbers_prefix {} hfront
  rw [← hrest, ← List.cons_append,
    List.getElem?_append_left (List.getElem?_eq_some_iff.1 h).1, h]

/-- The numbering of the pieces of a document counts the line ends behind its byte order mark. -/
theorem numbers_documentPieces
    (encoding : Encoding)
    (document : Bytes) :
    ({} : LineCount).numbers (documentPieces encoding document) =
      (encoding.startsFrom 0 (documentPieces encoding document)).map
        (encoding.lineAt (document.drop (encoding.signatureLength document))) :=
  encoding.numbers_pieces _

/-- **Lines are numbered by their ends.**  The number of a piece of a document is one more than the
number of line ends, pairs counted once, that lie before it.  It is the number that a reader reports
behind the piece, whatever failures lie between the deliveries, and the one that the error of a
piece tells which is not text.  It is also the number at which a detector stands that was fed a part
of the document, or all of it and the end, when this piece is the last one that it looked at. -/
theorem line_numbers_count_line_ends
    {document : Bytes}
    {source : Source}
    {arrived coming : List Bytes}
    (hsource : Source.delivered source.script = document)
    (hchunks : (arrived ++ coming).flatten = document)
    (capacity : Nat) :
    let encoding := Encoding.sniff document
    let pieces := documentPieces encoding document
    let body := document.drop (encoding.signatureLength document)
    let numbers := (encoding.startsFrom 0 pieces).map (encoding.lineAt body)
    let reader := LineReader.ofSource source capacity
    let needed := pieces.length + (Source.failures source.script).length
    let midway := Detector.fresh.feedAll arrived
    let final := Detector.feedThenFinish (arrived ++ coming)
    (∀ more, (reader.calls (needed + more)).filterMap LineCall.numbered? =
      (encoding.readings {} pieces).zip numbers) ∧
    (∀ made, ∀ call ∈ reader.calls made, ∀ error, call.answer = .error (.decode error) →
      error.line = call.after.count.number) ∧
    (0 :: numbers)[(Detector.transcriptSoFar arrived.flatten).pieceCount]? =
      some midway.1.count.number ∧
    (∀ event ∈ midway.2, event.lineNumber = midway.1.count.number) ∧
    (0 :: numbers)[(transcript document).pieceCount]? = some final.1.count.number ∧
    ∀ event ∈ final.2, event.lineNumber = final.1.count.number := by
  intro encoding pieces body numbers reader needed midway final
  have hnumbers : ({} : LineCount).numbers pieces = numbers :=
    numbers_documentPieces encoding document
  have hsized : reader.Sized := LineReader.sized_ofSource source capacity
  refine ⟨?_, ?_, ?_, ?_, ?_, ?_⟩
  · intro more
    have hahead : reader.mended.ahead = document := by
      rw [← hsource]
      exact LineReader.ahead_mended reader
    have hencoding : reader.mended.encodingAhead = encoding := by
      simp only [encoding, ← hahead]
      rfl
    have hpieces : reader.mended.piecesAhead = pieces := by
      simp only [pieces, encoding, ← hahead]
      rfl
    have hmade :
        reader.mended.piecesAhead.length + reader.failuresAhead.length ≤ needed + more := by
      rw [hpieces]
      exact Nat.le_add_right _ _
    rw [LineReader.numbered_calls hsized hmade, hencoding, hpieces, ← hnumbers]
    rfl
  · intro made call hmem error herror
    exact LineReader.line_of_undecodable_call hsized hmem herror
  · have hfed := (Detector.feed_piecesArrived arrived.flatten).1
    have hcount : midway.1.count = (Detector.fresh.feed arrived.flatten).1.count := by
      simp only [midway]
      rw [Detector.Reachable.fresh.feedAll_eq_feed_flatten arrived]
    have hfront := Detector.piecesArrived_prefix arrived.flatten coming.flatten
    rw [← List.flatten_append, hchunks] at hfront
    rw [← hnumbers, hcount]
    exact getElem?_of_numbers_prefix hfront hfed
  · exact Detector.lineNumber_of_feedAll Detector.open_fresh arrived
  · have hlast := Detector.number_feedThenFinish (arrived ++ coming)
    rw [hchunks] at hlast
    rw [← hnumbers, hlast]
    exact Transcript.getElem?_ofPieces encoding {} .start pieces
  · exact Detector.lineNumber_of_feedThenFinish (arrived ++ coming)

/-- A pair that is cut by a chunk and by a failure, and a byte behind it that is not text.  The
reader returns the line, the empty piece between the two halves of the pair, the one behind it and
the bad byte; the detector stands at the first line before the second half arrives. -/
theorem line_numbers_count_line_ends_across_pair :
    let source : Source :=
      ⟨[.bytes [0x3C, 0x3F, 0x0D], .failure ⟨.connectionReset, "reset"⟩, .bytes [0x0A, 0x0D, 0xFF]],
        []⟩
    let arrived : List Bytes := [[0x3C], [0x3F, 0x0D]]
    let coming : List Bytes := [[0x0A, 0x0D], [0xFF]]
    (((LineReader.ofSource source 0).calls 5).filterMap LineCall.numbered?).map Prod.snd =
        [1, 1, 2, 3] ∧
      (Detector.fresh.feedAll arrived).1.count.number = 1 ∧
      (Detector.feedThenFinish (arrived ++ coming)).1.count.number = 3 := by
  intro source arrived coming
  have hsource : Source.delivered source.script = [0x3C, 0x3F, 0x0D, 0x0A, 0x0D, 0xFF] := by decide
  have hchunks : (arrived ++ coming).flatten = [0x3C, 0x3F, 0x0D, 0x0A, 0x0D, 0xFF] := by decide
  obtain ⟨hreader, -, hmidway, -, hfinal, -⟩ := line_numbers_count_line_ends hsource hchunks 0
  refine ⟨?_, ?_, ?_⟩
  · have hcalls := congrArg (List.map Prod.snd) (hreader 0)
    refine hcalls.trans ?_
    decide +kernel
  · refine Option.some.inj (hmidway.symm.trans ?_)
    decide +kernel
  · refine Option.some.inj (hfinal.symm.trans ?_)
    decide +kernel

end Documents

end Detection
end XmlPreamble
