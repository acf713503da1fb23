import XmlPreamble.Proofs.CommentChains
import XmlPreamble.Proofs.DetectorStates
import XmlPreamble.Proofs.EncodingIndependence
import XmlPreamble.Proofs.ExactDecoding

/-!
# A comment on lines of its own can be erased

A comment that begins where a line begins, outside of every other comment, and that ends where a
line ends says nothing, whatever lines of text it spans: on its first line a comment opens, none of
the lines in between closes it, and nothing stands behind the closing.  The scan is in the same
state behind it as before it.  Hence a document has the same mode without the comment.

What stands before the comment may be too short for a detector to tell the encoding.  Its lines then
have one byte at most, and such a line says nothing if it is text.

Main statements:

- `Encoding.LinesClosed.pieces_append`: the pieces behind closed lines are cut as if alone;
- `Encoding.lookAll_comment`: the lines of a comment say nothing and lead back to the state before;
- `Detection.mode_of_silent`: lines that say nothing leave no trace between others;
- `Detection.silent_comment`: a comment is such lines;
- `Detection.detectBytes_erase_comment`: a document with the comment and without it.
-/

namespace XmlPreamble

namespace Scan

open Text

section Comments

variable {text : List Char}

/-- What leads into a comment: nothing if it is open already. -/
def leadIn : Bool → List Char
  | true => []
  | false => openingToken

theorem walkComments_leadIn
    (inComment : Bool)
    (text : List Char) :
    walkComments inComment (leadIn inComment ++ text) = walkComments true text := by
  cases inComment with
  | true => rfl
  | false =>
      have hfree : ¬openingToken <:+: [] := by decide
      exact walkComments_opening hfree text

/-- A line that is in a comment at its end, and was led into it, says nothing. -/
theorem classify_of_not_closed
    (inComment : Bool)
    (h : ¬closingToken <:+: text) :
    State.classify ⟨inComment⟩ (leadIn inComment ++ text) = (.proceed, ⟨true⟩) := by
  have hwalk : walkComments inComment (leadIn inComment ++ text) = ⟨none, true⟩ := by
    rw [walkComments_leadIn]
    exact walkComments_of_pastToken_none (afterFirst?_eq_none_iff.2 h)
  cases hplain : plain (leadIn inComment ++ text) with
  | false =>
      exact classify_of_walkComments_none hplain hwalk
  | true =>
      cases inComment with
      | true => exact State.classify_eq_proceed_of_inComment hplain
      | false => exact absurd (List.prefix_append openingToken text).isInfix (plain_iff.1 hplain).1

/-- A line at the end of which a comment closes, and that was led into the comment, says nothing. -/
theorem classify_of_closed
    (inComment : Bool)
    (h : ¬closingToken <:+: text) :
    State.classify ⟨inComment⟩ (leadIn inComment ++ text ++ closingToken) = (.proceed, ⟨false⟩) := by
  have hwalk : walkComments inComment (leadIn inComment ++ text ++ closingToken) =
      ⟨some [], false⟩ := by
    have hpast := pastToken_closing h []
    rw [List.append_nil] at hpast
    rw [List.append_assoc, walkComments_leadIn, walkComments_of_pastToken_some hpast]
    rfl
  have hplain : plain (leadIn inComment ++ text ++ closingToken) = false := by
    rw [Bool.eq_false_iff, Ne, plain_iff]
    intro hnone
    exact hnone.2 (List.suffix_append _ closingToken).isInfix
  exact classify_of_walkComments_some hplain hwalk

/-- Text of one letter at most says nothing and leaves the comment flag alone. -/
theorem classify_of_length_lt_two
    {line : List Char}
    (state : State)
    (h : line.length < 2) :
    state.classify line = (.proceed, state) := by
  have hplain : plain line = true := by
    rw [plain_iff]
    constructor
    · intro hwithin
      have := hwithin.length_le
      simp only [openingToken, List.length_cons, List.length_nil] at this
      omega
    · intro hwithin
      have := hwithin.length_le
      simp only [closingToken, List.length_cons, List.length_nil] at this
      omega
  rcases state with ⟨_ | _⟩
  · have hverdict : verdictOf line = .proceed := by
      rw [← says_iff]
      refine .nothing ?_ ?_
      · intro hwithin
        have := hwithin.length_le
        simp only [doctypeToken, List.length_cons, List.length_nil] at this
        omega
      · rintro ⟨before, letter, rest, rfl, -⟩
        simp only [List.length_append, List.length_cons] at h
        omega
    simp only [State.classify, stripComments_of_no_token false hplain, hverdict]
  · exact State.classify_eq_proceed_of_inComment hplain

end Comments

end Scan

namespace Encoding

open Scan

section ClosedLines

variable {bytes : Bytes}

/-- Every line of the bytes has its end: there is no byte, or the last one is a line feed or a
carriage return. -/
def LinesClosed (bytes : Bytes) : Prop :=
  ∀ byte ∈ bytes.getLast?, byte = 0x0A ∨ byte = 0x0D

theorem LinesClosed.cases
    (h : LinesClosed bytes) :
    bytes = [] ∨ ∃ front byte, (Terminator.ofCode? (UInt8.toNat byte)).isSome = true ∧
      bytes = front ++ [byte] := by
  cases hlast : bytes.getLast? with
  | none =>
      exact .inl (List.getLast?_eq_none_iff.1 hlast)
  | some byte =>
      obtain ⟨front, rfl⟩ := List.getLast?_eq_some_iff.1 hlast
      refine .inr ⟨front, byte, ?_, rfl⟩
      rcases h byte hlast with rfl | rfl
      · rfl
      · rfl

theorem LinesClosed.drop
    (h : LinesClosed bytes)
    (count : Nat) :
    LinesClosed (bytes.drop count) := by
  intro byte hbyte
  rw [List.getLast?_drop] at hbyte
  split at hbyte
  · cases hbyte
  · exact h byte hbyte

/-- Behind a byte that ends a line the cutting begins anew, and every piece before it is complete. -/
theorem piecesFrom_utf8_lineBreak
    {byte : UInt8}
    (hbyte : (Terminator.ofCode? byte.toNat).isSome = true)
    (held front more : Bytes) :
    utf8.piecesFrom held (front ++ byte :: more) =
      (utf8.piecesFrom held (front ++ [byte])).filter (·.terminator.isSome) ++
        utf8.pieces more := by
  obtain ⟨terminator, hterminator⟩ := Option.isSome_iff_exists.1 hbyte
  induction front generalizing held with
  | nil =>
      simp only [List.nil_append, piecesFrom, hterminator]
      rfl
  | cons first front ih =>
      simp only [List.cons_append, piecesFrom]
      cases hfirst : Terminator.ofCode? first.toNat with
      | some found =>
          simp only [ih, List.filter_cons, Option.isSome_some, if_true, List.cons_append]
      | none =>
          exact ih (first :: held)

/-- The pieces behind closed lines are cut as if alone. -/
theorem LinesClosed.pieces_append
    (h : LinesClosed bytes)
    (more : Bytes) :
    utf8.pieces (bytes ++ more) = utf8.completePieces bytes ++ utf8.pieces more := by
  rcases h.cases with rfl | ⟨front, byte, hbyte, rfl⟩
  · rw [completePieces, pieces_nil]
    rfl
  · rw [List.append_assoc]
    exact piecesFrom_utf8_lineBreak hbyte [] front more

/-- Behind closed lines nothing announces another encoding or a byte order mark. -/
theorem LinesClosed.sniff_append
    {more : Bytes}
    (h : LinesClosed bytes)
    (hsniff : sniff more = sniff [])
    (hmark : utf8.signatureLength more = 0) :
    sniff (bytes ++ more) = sniff bytes ∧
      utf8.signatureLength (bytes ++ more) = utf8.signatureLength bytes := by
  rcases h.cases with rfl | ⟨front, byte, hbyte, rfl⟩
  · exact ⟨hsniff, hmark⟩
  · rw [List.append_assoc, List.singleton_append, sniff_append_lineBreak hbyte,
      sniff_append_lineBreak hbyte, signatureLength_append_lineBreak hbyte,
      signatureLength_append_lineBreak hbyte]
    exact ⟨rfl, rfl⟩

end ClosedLines

section ShortLines

/-- A text has no more characters than bytes. -/
theorem length_le_length_encode_utf8 (text : List Char) :
    text.length ≤ (utf8.encode text).length := by
  induction text with
  | nil => exact Nat.zero_le _
  | cons c text ih =>
      have hpos := List.length_pos_iff.2 (Text.Utf8.encodeChar_ne_nil c)
      rw [encode] at ih ⊢
      rw [Text.Utf8.encode_cons, List.length_append, List.length_cons]
      omega

/-- A piece is no longer than the bytes it was cut from. -/
theorem length_spelling_le
    {bytes : Bytes}
    {piece : Piece}
    (encoding : Encoding)
    (h : piece ∈ encoding.pieces bytes) :
    (encoding.spelling piece).length ≤ bytes.length := by
  obtain ⟨front, others, hsplit⟩ := List.append_of_mem h
  have hspelled := congrArg List.length (encoding.flatMap_spelling_pieces bytes)
  rw [hsplit, List.flatMap_append, List.flatMap_cons, List.length_append,
    List.length_append] at hspelled
  omega

/-- A line of one byte at most says nothing, or it is not text. -/
theorem look_of_length_lt_two
    {line : Bytes}
    (state : Scan.State)
    (h : line.length < 2) :
    utf8.look state line = .ok state ∨ utf8.look state line = .error .auto := by
  rcases hdecoded : utf8.decode line with ⟨text, _ | fault⟩
  · left
    have hlength := length_le_length_encode_utf8 text
    rw [encode_of_decode hdecoded] at hlength
    exact look_eq_ok_iff.2 ⟨text, hdecoded, classify_of_length_lt_two state (by omega)⟩
  · exact .inr (look_of_fault hdecoded)

theorem lookAll_of_length_lt_two
    {lines : List Bytes}
    (state : Scan.State)
    (h : ∀ line ∈ lines, line.length < 2) :
    utf8.lookAll state lines = .ok state ∨ utf8.lookAll state lines = .error .auto := by
  induction lines with
  | nil => exact .inl rfl
  | cons line lines ih =>
      rw [List.forall_mem_cons] at h
      rw [lookAll_cons]
      rcases look_of_length_lt_two state h.1 with hline | hline
      · rw [hline]
        exact ih h.2
      · rw [hline]
        exact .inr rfl

end ShortLines

section CommentLines

theorem look_encode
    (encoding : Encoding)
    {state next : Scan.State}
    {text : List Char}
    (h : state.classify text = (.proceed, next)) :
    encoding.look state (encoding.encode text) = .ok next :=
  look_eq_ok_iff.2 ⟨text, encoding.decode_encode text, h⟩

/-- The lines of the rest of a comment, which closes at the end of a line, say nothing and lead out
of it.  The part of the first line that has been read was led into the comment. -/
theorem lookAll_rest_of_comment
    (encoding : Encoding)
    (inComment : Bool)
    {inner body : List Char}
    (h : ¬closingToken <:+: inner ++ body) :
    encoding.lookAll ⟨inComment⟩
        (((textLinesFrom (leadIn inComment ++ inner).reverse (body ++ closingToken ++ ['\n'])).map
          TextLine.body).map encoding.encode) =
      .ok .start := by
  induction body generalizing inComment inner with
  | nil =>
      rw [List.append_nil] at h
      have hline := look_encode encoding (classify_of_closed inComment h)
      have hlines : textLinesFrom (leadIn inComment ++ inner).reverse
          ([] ++ closingToken ++ ['\n']) =
            [⟨leadIn inComment ++ inner ++ closingToken, some .lineFeed⟩] := by
        simp [textLinesFrom, closingToken, Terminator.ofCode?]
      rw [hlines, List.map_singleton, List.map_singleton, lookAll_cons, hline]
      rfl
  | cons c body ih =>
      cases hc : Terminator.ofCode? c.toNat with
      | some terminator =>
          -- The line ends within the comment, and the next one is led into it.
          have hinner : ¬closingToken <:+: inner := fun hwithin =>
            h (hwithin.trans (List.prefix_append inner _).isInfix)
          have hrest : ¬closingToken <:+: [] ++ body := fun hwithin =>
            h (hwithin.trans ⟨inner ++ [c], [], by simp⟩)
          have hline := look_encode encoding (classify_of_not_closed inComment hinner)
          have hlines : textLinesFrom (leadIn inComment ++ inner).reverse
              (c :: body ++ closingToken ++ ['\n']) =
                ⟨leadIn inComment ++ inner, some terminator⟩ ::
                  textLinesFrom (leadIn true ++ []).reverse (body ++ closingToken ++ ['\n']) := by
            simp [textLinesFrom, hc, leadIn]
          rw [hlines, List.map_cons, List.map_cons, lookAll_cons, hline]
          exact ih true hrest
      | none =>
          have hlines : textLinesFrom (leadIn inComment ++ inner).reverse
              (c :: body ++ closingToken ++ ['\n']) =
                textLinesFrom (leadIn inComment ++ (inner ++ [c])).reverse
                  (body ++ closingToken ++ ['\n']) := by
            simp [textLinesFrom, hc]
          rw [hlines]
          refine ih inComment ?_
          rwa [List.append_assoc, List.singleton_append]

/-- The lines of a comment say nothing and lead back to the state before it. -/
theorem lookAll_comment
    (encoding : Encoding)
    {body : List Char}
    (h : ¬closingToken <:+: body) :
    encoding.lookAll .start
        ((encoding.pieces (encoding.encode (openingToken ++ body ++ closingToken ++ ['\n']))).map
          Piece.body) =
      .ok .start := by
  have hfree : ¬closingToken <:+: [] ++ body := h
  have hrest := lookAll_rest_of_comment encoding false hfree
  rw [pieces_encode, List.map_map]
  rw [List.map_map] at hrest
  exact hrest

end CommentLines

end Encoding

namespace Detection

open Encoding Scan

section Erasing

variable {front : Bytes}

/-- A comment can stand behind these bytes on lines of its own: they are closed lines of UTF-8, and
they leave a new detector without an answer and outside of every comment. -/
structure LeavesOutside (front : Bytes) : Prop where
  closed : LinesClosed front
  utf8 : sniff front = utf8
  undecided : (Detector.fresh.feed front).1.decision = none
  outside : (Detector.fresh.feed front).1.state.inComment = false

/-- The lines of closed UTF-8 behind its byte order mark. -/
def closedLines (front : Bytes) : List Bytes :=
  (utf8.completePieces (front.drop (utf8.signatureLength front))).map Piece.body

/-- The lines that follow closed ones are looked at as if alone, in the state that is left to
them. -/
theorem mode_of_closed
    {more : Bytes}
    (hclosed : LinesClosed front)
    (hutf8 : sniff front = utf8)
    (hsniff : sniff more = utf8)
    (hmark : utf8.signatureLength more = 0) :
    (transcript (front ++ more)).ending.mode =
      Mode.ofLines (utf8.lookAll .start (closedLines front) >>= fun state =>
        utf8.lookAll state ((utf8.pieces more).map Piece.body)) := by
  obtain ⟨hsniffed, hlength⟩ := hclosed.sniff_append hsniff hmark
  have hlines : documentLines utf8 (front ++ more) =
      closedLines front ++ (utf8.pieces more).map Piece.body := by
    rw [documentLines, documentPieces, hlength,
      List.drop_append_of_le_length (utf8.signatureLength_le_length front),
      (hclosed.drop _).pieces_append, List.map_append]
    rfl
  rw [mode_transcript, hsniffed, hutf8, hlines, lookAll_append]

/-- Such lines lead back to the state before the first line, unless they are too few to be looked at
and not text. -/
theorem lookAll_closedLines
    (hfront : LeavesOutside front) :
    utf8.lookAll .start (closedLines front) = .ok .start ∨
      utf8.lookAll .start (closedLines front) = .error .auto := by
  by_cases hlong : sniffLength ≤ front.length
  · left
    have hlooked := Detector.lookAll_piecesArrived hlong hfront.undecided
    have hstate : (Detector.fresh.feed front).1.state = .start :=
      congrArg State.mk hfront.outside
    rw [Detector.piecesArrived, if_neg (by omega), hfront.utf8, hstate] at hlooked
    exact hlooked
  · -- There are two bytes at most, and one of them is the end of every line.
    apply lookAll_of_length_lt_two
    intro line hline
    obtain ⟨piece, hpiece, rfl⟩ := List.mem_map.1 hline
    obtain ⟨hmem, hcomplete⟩ := List.mem_filter.1 hpiece
    obtain ⟨terminator, hterminator⟩ := Option.isSome_iff_exists.1 hcomplete
    have hsize := length_spelling_le utf8 hmem
    have hend : 0 < (utf8.terminatorBytes terminator).length := by
      cases terminator <;> decide
    rw [spelling, hterminator, List.length_append, List.length_drop] at hsize
    simp only [Option.map_some, Option.getD_some, sniffLength] at hsize hlong
    omega

/-- Closed lines of UTF-8 that say nothing, and with which a document can begin. -/
structure Silent (lines : Bytes) : Prop where
  closed : LinesClosed lines
  announces : ∀ rest, sniff (lines ++ rest) = utf8 ∧ utf8.signatureLength (lines ++ rest) = 0
  looked : utf8.lookAll .start ((utf8.pieces lines).map Piece.body) = .ok .start

/-- Silent lines leave no trace between other lines. -/
theorem mode_of_silent
    {silent : Bytes}
    (hfront : LeavesOutside front)
    (hsilent : Silent silent)
    (rest : Bytes) :
    (transcript (front ++ (silent ++ rest))).ending.mode =
      Mode.ofLines (utf8.lookAll .start (closedLines front) >>= fun state =>
        utf8.lookAll state ((utf8.pieces rest).map Piece.body)) := by
  obtain ⟨hclosed, hannounces, hlooked⟩ := hsilent
  have hwhole : utf8.completePieces silent = utf8.pieces silent := by
    have hnothing := hclosed.pieces_append []
    rw [List.append_nil, pieces_nil, List.append_nil] at hnothing
    exact hnothing.symm
  rw [mode_of_closed hfront.closed hfront.utf8 (hannounces rest).1 (hannounces rest).2,
    hclosed.pieces_append rest, hwhole, List.map_append]
  rcases lookAll_closedLines hfront with hstart | hfault
  · rw [hstart]
    refine congrArg Mode.ofLines ((lookAll_append utf8 .start _ _).trans ?_)
    rw [hlooked]
  · rw [hfault]
    rfl

theorem linesClosed_lineFeed (lines : Bytes) : LinesClosed (lines ++ [0x0A]) := by
  intro byte hbyte
  rw [List.getLast?_append, List.getLast?_singleton] at hbyte
  cases hbyte
  exact .inl rfl

/-- An empty line is silent. -/
theorem silent_lineFeed : Silent [0x0A] := by
  have hbyte : (Terminator.ofCode? (0x0A : UInt8).toNat).isSome = true := rfl
  refine ⟨linesClosed_lineFeed [], ?_, ?_⟩
  · intro rest
    have hsniff : sniff ([] ++ 0x0A :: rest) = sniff [] := sniff_append_lineBreak hbyte rest
    have hmark : utf8.signatureLength ([] ++ 0x0A :: rest) = utf8.signatureLength [] :=
      signatureLength_append_lineBreak hbyte utf8 rest
    exact ⟨hsniff, hmark⟩
  · have hpieces : utf8.pieces [0x0A] = [⟨[], some .lineFeed⟩] := rfl
    rw [hpieces, List.map_singleton, lookAll_cons, look_nil]
    rfl

/-- A comment announces UTF-8, without a byte order mark. -/
theorem announces_comment
    (text : List Char)
    (rest : Bytes) :
    sniff (utf8.encode (openingToken ++ text) ++ rest) = utf8 ∧
      utf8.signatureLength (utf8.encode (openingToken ++ text) ++ rest) = 0 := by
  have hopening : utf8.encode openingToken = [0x3C, 0x21, 0x2D, 0x2D] := by
    decide
  have hlong : sniffLength ≤ (utf8.encode openingToken).length := by
    rw [hopening]
    decide
  rw [encode_append, List.append_assoc, Encoding.sniff_append _ hlong,
    signatureLength_append utf8 _ hlong, hopening]
  decide

/-- A comment with the end of its last line is silent. -/
theorem silent_comment
    {body : List Char}
    (h : ¬closingToken <:+: body) :
    Silent (utf8.encode (openingToken ++ body ++ closingToken) ++ [0x0A]) := by
  refine ⟨linesClosed_lineFeed _, ?_, ?_⟩
  · intro rest
    rw [List.append_assoc openingToken, List.append_assoc]
    exact announces_comment _ _
  · have hlooked := lookAll_comment utf8 h
    rw [encode_append] at hlooked
    exact hlooked

/-- **A comment on lines of its own can be erased.**  Before it are lines of UTF-8, or nothing, that
leave a new detector without an answer and outside of every comment.  The text of the comment may
be anything in which no comment closes, and anything may follow behind the end of its last line. -/
theorem detectBytes_erase_comment
    {body : List Char}
    (hfront : LeavesOutside front)
    (hbody : ¬closingToken <:+: body)
    (rest : Bytes)
    (capacity otherCapacity : Nat) :
    detectBytes (front ++ utf8.encode (openingToken ++ body ++ closingToken) ++ [0x0A] ++ rest)
        capacity =
      detectBytes (front ++ [0x0A] ++ rest) otherCapacity := by
  have hwith := mode_of_silent hfront (silent_comment hbody) rest
  have hwithout := mode_of_silent hfront silent_lineFeed rest
  rw [← List.append_assoc, ← List.append_assoc] at hwith
  rw [← List.append_assoc] at hwithout
  rw [detectBytes_eq, detectBytes_eq, hwith, hwithout]

/-- A comment of two lines, with a declaration in the first and an opening token in the second, that
stands behind a lone carriage return. -/
theorem detectBytes_erase_comment_of_doctype :
    let front : Bytes := [0x3C, 0x3F, 0x0D]
    let body : List Char := "<!DOCTYPE a>\n<!--<b>-".toList
    let rest : Bytes := [0x3C, 0x61, 0x3E]
    detectBytes (front ++ utf8.encode (openingToken ++ body ++ closingToken) ++ [0x0A] ++ rest) 0 =
      detectBytes (front ++ [0x0A] ++ rest) 8 := by
  intro front body rest
  have hclosed : LinesClosed front := by
    rintro byte ⟨⟩
    exact .inr rfl
  have hfront : LeavesOutside front :=
    ⟨hclosed, by decide, by decide +kernel, by decide +kernel⟩
  have hbody : ¬closingToken <:+: body := by
    decide +kernel
  exact detectBytes_erase_comment hfront hbody rest 0 8

end Erasing

end Detection
end XmlPreamble
